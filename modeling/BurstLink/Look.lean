/-! # Looking at something in progress

Operations are carried out by looking at them again and again. A look either finds that there is
more to wait for, and then says what, or it finds the result.

Main definitions: **`Look`**, and **`Look.map`**, which names both outcomes anew. -/

namespace BurstLink

/-- What a look at something in progress finds. -/
inductive Look (ω α : Type) where
  /-- It goes on; this is left to be done. -/
  | waiting (rest : ω)
  /-- It is over. -/
  | finished (result : α)

namespace Look

variable {ω ω' α α' : Type}

/-- Names what is left to be done and the result anew. -/
def map (f : ω → ω') (g : α → α') : Look ω α → Look ω' α'
  | .waiting rest => .waiting (f rest)
  | .finished result => .finished (g result)

/-- It goes on. -/
def isWaiting : Look ω α → Bool
  | .waiting _ => true
  | .finished _ => false

end Look

end BurstLink
