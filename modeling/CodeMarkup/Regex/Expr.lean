import CodeMarkup.Regex.Marked

/-!
# Regular expressions

A regular expression as it is written (`CodeMarkup.Regex.Expr`), with counted
repetitions and without stations, and the marked expression that matches it
(`CodeMarkup.Regex.Expr.toMarked`).

Expressions are put together by functions that simplify on the way
(`CodeMarkup.Regex.Expr.concat`, `CodeMarkup.Regex.Expr.alternate`,
`CodeMarkup.Regex.Expr.repeated`). One of the simplifications can be seen from
outside: branches that all begin with the same factors share them, so the choice
between the branches is made after the factors have matched
(`CodeMarkup.Regex.Expr.alternate`).
-/

namespace CodeMarkup.Regex

/-- A regular expression. -/
inductive Expr where
  /-- Takes nothing. -/
  | empty
  /-- Takes one character of the set. -/
  | one (s : CharSet)
  /-- Takes nothing, where the assertion holds. -/
  | look (a : Look)
  /-- One after the other. -/
  | cat (a b : Expr)
  /-- The first, or else the second. -/
  | alt (a b : Expr)
  /-- At least `min` times, and at most `max` times if there is a bound. -/
  | rep (min : Nat) (max : Option Nat) (greedy : Bool) (a : Expr)
  /-- A group with a number. -/
  | group (i : Nat) (a : Expr)
  deriving DecidableEq, Repr, Inhabited

namespace Expr

/-! ### Lengths -/

/-- Whether the expression has a way through it that takes nothing. -/
def nullable : Expr → Bool
  | empty => true
  | one _ => false
  | look _ => true
  | cat a b => a.nullable && b.nullable
  | alt a b => a.nullable || b.nullable
  | rep min _ _ a => min == 0 || a.nullable
  | group _ a => a.nullable

/-- Whether every way through the expression takes nothing. -/
def takesNothing : Expr → Bool
  | empty => true
  | one _ => false
  | look _ => true
  | cat a b => a.takesNothing && b.takesNothing
  | alt a b => a.takesNothing && b.takesNothing
  | rep _ max _ a => max == some 0 || (a.takesNothing && max.isSome)
  | group _ a => a.takesNothing

/-! ### Putting expressions together -/

/-- The expressions that are taken one after the other. -/
def factors : Expr → List Expr
  | empty => []
  | cat a b => a.factors ++ b.factors
  | e => [e]

/-- The expressions that are tried one after the other. -/
def branches : Expr → List Expr
  | alt a b => a.branches ++ b.branches
  | e => [e]

/-- The factors one after the other. -/
def ofFactors : List Expr → Expr
  | [] => empty
  | [e] => e
  | e :: es => cat e (ofFactors es)

/-- The branches one after the other. -/
def ofBranches : List Expr → Expr
  | [] => one .empty
  | [e] => e
  | e :: es => alt e (ofBranches es)

/-- Expressions one after the other. -/
def concat (es : List Expr) : Expr := ofFactors (es.flatMap factors)

/-- The set of the characters that an expression takes one of, if it is such a set. -/
def set? : Expr → Option CharSet
  | one s => some s
  | _ => none

/-- How many factors two lists begin with in common. -/
def commonFactors : List Expr → List Expr → Nat
  | a :: as, b :: bs => if a = b then commonFactors as bs + 1 else 0
  | _, _ => 0

/-- How many factors the first branch has in common with every other one. A branch of
one factor or none shares nothing. -/
def sharedFactors (es : List Expr) : Nat :=
  if es.all fun e => 2 ≤ e.factors.length then
    match es with
    | [] => 0
    | e :: es => es.foldl (fun n f => min n (commonFactors e.factors f.factors)) e.factors.length
  else 0

/-- Whether the expression takes one certain character. -/
def isChar : Expr → Bool
  | one (.range lo hi) => lo = hi
  | _ => false

/-- Expressions to be tried one after the other. If each is a set of characters they
are one set; and if all begin with the same factors these come first, once, unless
the factors are certain characters only: these can match in one way. -/
def alternate (es : List Expr) : Expr :=
  let es := es.flatMap branches
  if es.length ≤ 1 then ofBranches es
  else if es.all (·.set?.isSome) then one (.unionAll (es.filterMap set?))
  else
    let n := sharedFactors es
    let shared := ((es.headD .empty).factors).take n
    if shared.all isChar then ofBranches es
    else
      let rests := es.map fun e => ofFactors (e.factors.drop n)
      let rest :=
        if rests.all (·.set?.isSome) then one (.unionAll (rests.filterMap set?))
        else ofBranches (rests.flatMap branches)
      concat (shared ++ [rest])

/-- A repetition. One that takes nothing is not worth a second round, and a single
round is the expression itself. -/
def repeated (min : Nat) (max : Option Nat) (greedy : Bool) (a : Expr) : Expr :=
  let once := a.takesNothing
  let min := if once then Nat.min min 1 else min
  let max := if once then some (Nat.min (max.getD 1) 1) else max
  if min = 0 ∧ max = some 0 then empty
  else if min = 1 ∧ max = some 1 then a
  else rep min max greedy a

/-! ### Marked expressions -/

/-- A first or a second way, an eager choice preferring the way `a`. -/
def choice (greedy : Bool) (a b : Marked) : Marked := if greedy then .alt a b else .alt b a

/-- `a`, then `b`; behind each of them the choice to stop. -/
def nested (greedy : Bool) : List Marked → Marked
  | [] => .empty
  | a :: as => choice greedy (.cat a (nested greedy as)) .empty

/-- Marked expressions one after the other, with `last` at the end. -/
def chain (as : List Marked) (last : Marked) : Marked := as.foldr .cat last

/-- The marked expression of an expression. The numbers from the state on are free for
stations. `loop` says whether the expression stands in a repetition whose body
can take nothing: there every point that several ways lead to is a station.
Elsewhere only those are that several ways lead to which take nothing. -/
def mark (loop : Bool) : Expr → StateM Nat Marked
  | empty => pure .empty
  | one s => pure (.one s none)
  | look a => pure (.look a)
  | cat a b => do return .cat (← a.mark loop) (← b.mark loop)
  | alt a b => do
    let both := Marked.alt (← a.mark loop) (← b.mark loop)
    if loop || (a.nullable && b.nullable) then return .join (← fresh) both else return both
  | group i a => do return .group i (← a.mark loop)
  | rep min max greedy a => do
    let inner := loop || a.nullable
    let copies (n : Nat) : StateM Nat (List Marked) := (List.replicate n ()).mapM fun _ => a.mark loop
    let loopBody : StateM Nat Marked := do
      if inner then
        let body ← a.mark true
        return .plus greedy (.enter (← fresh) (.join (← fresh) body))
      else return .plus greedy (← a.mark false)
    match min, max with
    | 0, none =>
      let some := choice greedy (← loopBody) .empty
      if inner then return .join (← fresh) some else return some
    | n + 1, none => return chain (← copies n) (← loopBody)
    | n, some m =>
      let first ← copies n
      let more := nested greedy (← copies (m - n))
      if m ≤ n then return chain first .empty
      else if inner then return chain first (.join (← fresh) more)
      else return chain first more
where
  /-- A number that no station has. -/
  fresh : StateM Nat Nat := fun n => (n, n + 1)

/-- The marked expression of an expression, without marks. -/
def toMarked (e : Expr) : Marked := (e.mark false |>.run 0).1

end Expr

end CodeMarkup.Regex
