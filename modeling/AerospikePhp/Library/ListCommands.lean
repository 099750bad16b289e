import Mathlib.Tactic

/-!
# Commands on a list

What a list with elements of any type can be asked to do, and the machines that
carry these commands out by moving elements around.  Such a machine does not
look at the elements, so it does the same to every function of them; from this
it follows that related commands on related lists have related results.
-/

namespace ListCommands

open List (Forall₂)

variable {ε α β : Type}

/-- A negative index counts from the end. -/
inductive Command (α : Type) where
  | size
  | append (x : α)
  | appendAll (xs : List α)
  | insert (index : ℤ) (x : α)
  | insertAll (index : ℤ) (xs : List α)
  | pop (index : ℤ)
  | popRange (index count : ℤ)
  | remove (index : ℤ)
  | removeRange (index count : ℤ)
  | trim (index count : ℤ)
  | clear
  | set (index : ℤ) (x : α)
  | get (index : ℤ)
  | getRange (index count : ℤ)

inductive Result (α : Type) where
  | number (n : ℕ)
  | one (x : α)
  | many (xs : List α)

/-- The result, if there is one, or the error, and what is held afterwards. -/
structure Reaction (ε α : Type) where
  result : Except ε (Option (Result α))
  held : Option (List α)

namespace Command

def map (f : α → β) : Command α → Command β
  | size => size
  | append x => append (f x)
  | appendAll xs => appendAll (xs.map f)
  | insert index x => insert index (f x)
  | insertAll index xs => insertAll index (xs.map f)
  | pop index => pop index
  | popRange index count => popRange index count
  | remove index => remove index
  | removeRange index count => removeRange index count
  | trim index count => trim index count
  | clear => clear
  | set index x => set index (f x)
  | get index => get index
  | getRange index count => getRange index count

/-- The elements that the command brings. -/
def elements : Command α → List α
  | append x | insert _ x | set _ x => [x]
  | appendAll xs | insertAll _ xs => xs
  | _ => []

/-- The same command, with related elements. -/
def Rel (R : α → β → Prop) (command : Command α) (command' : Command β) : Prop :=
  ∃ pairs : Command {pair : α × β // R pair.1 pair.2},
    pairs.map (fun pair => pair.1.1) = command ∧
      pairs.map (fun pair => pair.1.2) = command'

end Command

def Result.map (f : α → β) : Result α → Result β
  | .number n => .number n
  | .one x => .one (f x)
  | .many xs => .many (xs.map f)

def Reaction.map (f : α → β) (reaction : Reaction ε α) : Reaction ε β where
  result := reaction.result.map (Option.map (Result.map f))
  held := reaction.held.map (List.map f)

/-- A machine that carries out commands on lists over any type, in the same way
for all of them. -/
structure Machine (ε : Type) where
  step : {α : Type} → Command α → Option (List α) → Reaction ε α
  natural : ∀ {α β : Type} (f : α → β) (command : Command α)
    (held : Option (List α)),
    step (command.map f) (held.map (List.map f)) = (step command held).map f
  /-- A size is a number, if there is one. -/
  size : ∀ {α : Type} (held : Option (List α)) (result : Result α),
    (step .size held).result = .ok (some result) → ∃ n, result = .number n

/-! ## Related commands have related results -/

/-- The same result or the same error, with related elements. -/
inductive Answers (R : α → β → Prop) :
    Except ε (Option (Result α)) → Except ε (Option (Result β)) → Prop
  | refused (error : ε) : Answers R (.error error) (.error error)
  | nothing : Answers R (.ok none) (.ok none)
  | number (n : ℕ) : Answers R (.ok (some (.number n))) (.ok (some (.number n)))
  | one {x : α} {y : β} (hrel : R x y) :
      Answers R (.ok (some (.one x))) (.ok (some (.one y)))
  | many {xs : List α} {ys : List β} (hrel : Forall₂ R xs ys) :
      Answers R (.ok (some (.many xs))) (.ok (some (.many ys)))

section

variable {R : α → β → Prop}

theorem forall₂_pairs (pairs : List {pair : α × β // R pair.1 pair.2}) :
    Forall₂ R (pairs.map fun pair => pair.1.1)
      (pairs.map fun pair => pair.1.2) := by
  induction pairs with
  | nil => exact .nil
  | cons pair pairs ih => exact .cons pair.2 ih

theorem exists_pairs {xs : List α} {ys : List β} (hrel : Forall₂ R xs ys) :
    ∃ pairs : List {pair : α × β // R pair.1 pair.2},
      pairs.map (fun pair => pair.1.1) = xs ∧
        pairs.map (fun pair => pair.1.2) = ys := by
  induction hrel with
  | nil => exact ⟨[], rfl, rfl⟩
  | @cons x y xs ys hxy _ ih =>
      obtain ⟨pairs, rfl, rfl⟩ := ih
      exact ⟨⟨(x, y), hxy⟩ :: pairs, rfl, rfl⟩

theorem answers_pairs
    (result : Except ε (Option (Result {pair : α × β // R pair.1 pair.2}))) :
    Answers R (result.map (Option.map (Result.map fun pair => pair.1.1)))
      (result.map (Option.map (Result.map fun pair => pair.1.2))) := by
  cases result with
  | error error => exact .refused error
  | ok result =>
      cases result with
      | none => exact .nothing
      | some result =>
          cases result with
          | number n => exact .number n
          | one pair => exact .one pair.2
          | many pairs => exact .many (forall₂_pairs pairs)

/-- What is held by the two machines is a list of pairs, seen from both
sides. -/
theorem Machine.related (machine : Machine ε) {command : Command α}
    {command' : Command β} (hcommand : command.Rel R command')
    {held : Option (List α)} {held' : Option (List β)}
    (hheld : Option.Rel (Forall₂ R) held held') :
    Answers R (machine.step command held).result
        (machine.step command' held').result ∧
      Option.Rel (Forall₂ R) (machine.step command held).held
        (machine.step command' held').held := by
  obtain ⟨pairs, rfl, rfl⟩ := hcommand
  obtain ⟨both, rfl, rfl⟩ :
      ∃ both : Option (List {pair : α × β // R pair.1 pair.2}),
        both.map (List.map fun pair => pair.1.1) = held ∧
          both.map (List.map fun pair => pair.1.2) = held' := by
    cases hheld with
    | none => exact ⟨none, rfl, rfl⟩
    | some hrel =>
        obtain ⟨both, rfl, rfl⟩ := exists_pairs hrel
        exact ⟨some both, rfl, rfl⟩
  rw [machine.natural, machine.natural]
  refine ⟨answers_pairs _, ?_⟩
  show Option.Rel _ (Option.map _ (machine.step pairs both).held)
    (Option.map _ (machine.step pairs both).held)
  cases (machine.step pairs both).held with
  | none => exact .none
  | some after => exact .some (forall₂_pairs after)

end

/-! ## A machine for lists -/

/-- The place of an index in a list of this length. -/
def placeOf (length : ℕ) (index : ℤ) : Option ℕ :=
  let place := if index < 0 then index + length else index
  if 0 ≤ place ∧ place < length then some place.toNat else none

section

variable (outside : ε) (xs : List α)

/-- Go on at the place of the index, if the list has one. -/
def atPlace (index : ℤ) (use : ℕ → Reaction ε α) : Reaction ε α :=
  match placeOf xs.length index with
  | some place => use place
  | none => ⟨.error outside, some xs⟩

def sized (xs : List α) : Reaction ε α := ⟨.ok (some (.number xs.length)), some xs⟩

/-- Carry out a command on a list. -/
def carryOut : Command α → Reaction ε α
  | .size => sized xs
  | .append x => sized (xs ++ [x])
  | .appendAll ys => sized (xs ++ ys)
  | .insert index x => atPlace outside xs index fun place =>
      sized (xs.insertIdx place x)
  | .insertAll index ys => atPlace outside xs index fun place =>
      sized (xs.take place ++ ys ++ xs.drop place)
  | .pop index => atPlace outside xs index fun place =>
      ⟨.ok (xs[place]?.map .one), some (xs.eraseIdx place)⟩
  | .popRange index count => atPlace outside xs index fun place =>
      ⟨.ok (some (.many ((xs.drop place).take count.toNat))),
        some (xs.take place ++ xs.drop (place + count.toNat))⟩
  | .remove index => atPlace outside xs index fun place =>
      ⟨.ok none, some (xs.eraseIdx place)⟩
  | .removeRange index count => atPlace outside xs index fun place =>
      ⟨.ok none, some (xs.take place ++ xs.drop (place + count.toNat))⟩
  | .trim index count => atPlace outside xs index fun place =>
      ⟨.ok none, some ((xs.drop place).take count.toNat)⟩
  | .clear => ⟨.ok none, some []⟩
  | .set index x => atPlace outside xs index fun place =>
      ⟨.ok none, some (xs.set place x)⟩
  | .get index => atPlace outside xs index fun place =>
      ⟨.ok (xs[place]?.map .one), some xs⟩
  | .getRange index count => atPlace outside xs index fun place =>
      ⟨.ok (some (.many ((xs.drop place).take count.toNat))), some xs⟩

end

theorem atPlace_map (outside : ε) (f : α → β) (xs : List α) (index : ℤ)
    {use : ℕ → Reaction ε α} {use' : ℕ → Reaction ε β}
    (huse : ∀ place, use' place = (use place).map f) :
    atPlace outside (xs.map f) index use' =
      (atPlace outside xs index use).map f := by
  unfold atPlace
  rw [List.length_map]
  cases placeOf xs.length index with
  | some place => exact huse place
  | none => rfl

theorem carryOut_map (outside : ε) (f : α → β) (xs : List α)
    (command : Command α) :
    carryOut outside (xs.map f) (command.map f) =
      (carryOut outside xs command).map f := by
  cases command with
  | size | append _ | appendAll _ | clear =>
      all_goals
        simp [carryOut, Command.map, sized, Reaction.map, Result.map, Except.map]
  | insert _ _ | insertAll _ _ | pop _ | popRange _ _ | remove _
  | removeRange _ _ | trim _ _ | set _ _ | get _ | getRange _ _ =>
      all_goals
        refine atPlace_map outside f xs _ fun place => ?_
        simp [sized, Reaction.map, Result.map, Except.map, List.map_take,
          List.map_drop, List.map_insertIdx, List.map_set, List.eraseIdx_map,
          List.length_insertIdx, Function.comp_def]

/-- Lists that start out empty; an index without a place is an error. -/
def listMachine (outside : ε) : Machine ε where
  step command held := carryOut outside (held.getD []) command
  natural f command held := by
    have hnil : (held.map (List.map f)).getD [] = (held.getD []).map f := by
      cases held <;> rfl
    rw [hnil]
    exact carryOut_map outside f (held.getD []) command
  size held result hresult := by
    obtain rfl := Option.some.inj (Except.ok.inj hresult)
    exact ⟨_, rfl⟩

end ListCommands
