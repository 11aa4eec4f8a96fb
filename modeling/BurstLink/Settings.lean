import BurstLink.Link.Setup

/-! # Changing the configuration

The configuration can be replaced as a whole or one setting at a time. While the link protocol owns
the radio a change reaches the registers at once; otherwise it waits for the link to come up.

Main definitions: **`Station.replaceConfig`**, **`Station.changeConfig`**,
**`Station.setPowerLevel`**. The bounds are checked before, by `LinkConfig.validate` and
`ConfigChange.check`. -/

namespace BurstLink.Station

/-- Stores a configuration, and applies it if the link is up. -/
def storeConfig (config : LinkConfig) (s : Station) : Station :=
  let s := s.onLink fun link => { link with config := config }
  if s.link.initialized then s.applyConfig config else s

/-- Replaces the whole configuration. -/
def replaceConfig (config : LinkConfig) (s : Station) : Station :=
  (s.storeConfig config).note (.configured config)

/-- Changes one setting. -/
def changeConfig (change : ConfigChange) (s : Station) : Station :=
  let config := change.apply s.link.config
  (s.storeConfig config).note (.reconfigured config)

/-- Sets the output gain of the front end to that of a power level. -/
def setPowerLevel (level : UInt8) (s : Station) : Station :=
  let gain := gainForLevel level
  (s.note (.powerLevel level gain)).onFrontEnd (FrontEnd.setGain gain)

/-- The configuration is stored, up and down, with or without the radio. -/
@[simp] theorem link_storeConfig (config : LinkConfig) (s : Station) :
    (s.storeConfig config).link = { s.link with config := config } := by
  unfold storeConfig
  dsimp only
  split <;> rfl

end BurstLink.Station
