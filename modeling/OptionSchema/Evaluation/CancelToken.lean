/-!
# Cancel tokens

A token says whether an evaluation is to be given up. The clones of a token share its flag, so they
form a family: to cancel one of them is to cancel all.
-/

namespace OptionSchema.Evaluation

/-- The tokens that exist, in the order of their making: for each one the number of its family, and
for each family its flag. -/
structure TokenPool where
  families : List Nat
  flags : List Bool
  deriving DecidableEq

/-- What can be done with tokens. A token is given by its position; positions go round. -/
inductive TokenStep where
  | new
  | clone (position : Nat)
  | cancel (position : Nat)
  deriving DecidableEq

namespace TokenPool

def start : TokenPool :=
  ⟨[0], [false]⟩

def family (pool : TokenPool) (position : Nat) : Nat :=
  pool.families.getD (position % pool.families.length) 0

def step (pool : TokenPool) : TokenStep → TokenPool
  | .new => ⟨pool.families ++ [pool.flags.length], pool.flags ++ [false]⟩
  | .clone position => { pool with families := pool.families ++ [pool.family position] }
  | .cancel position => { pool with flags := pool.flags.set (pool.family position) true }

def cancelled (pool : TokenPool) : List Bool :=
  pool.families.map fun family => pool.flags.getD family false

def run (pool : TokenPool) : List TokenStep → List TokenPool
  | [] => []
  | step :: rest =>
      let next := pool.step step
      next :: next.run rest

end TokenPool

end OptionSchema.Evaluation
