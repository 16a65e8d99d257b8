import FuzzyGrid.Grid.Stack
import FuzzyGrid.Proofs.Lists.Blending

/-!
# Calls on grids

Grids are made, combined and edited in place, call after call, and stacks are
gathered from them and reduced to grids again.  Calls are written down once for
whatever represents grids and stacks.  A call that fails leaves everything as it
was, and two representations whose operations agree one by one agree along all
calls.
-/

namespace FuzzyGrid

open List (Forall₂)

/-- Why a call on grids fails. -/
inductive GridRefusal where
  | grid (fault : GridFault)
  | shape (mismatch : ShapeMismatch)
  /-- Nothing is held at the place. -/
  | absent (place : Nat)
  /-- The place lies outside of a buffer. -/
  | outside (place : Nat)
  /-- A sort gives up. -/
  | unsorted
  deriving Repr, DecidableEq

/-- The operations on grids and on stacks of grids.  Replacing a mask gives the
grid as it is afterwards along with the outcome. -/
structure GridTools (α G S : Type) where
  withMask : UInt64 → UInt64 → List α → List Bool → Except GridRefusal G
  ofValues : UInt64 → UInt64 → List α → Except GridRefusal G
  ofRow : List α → G
  ofRows : List (List α) → Except GridRefusal G
  filled : UInt64 → UInt64 → α → List Bool → Except GridRefusal G
  map : (α → α) → G → G
  zipWith : MaskRule → (α → α → α) → G → G → Except GridRefusal G
  maskWhere : (α → Bool) → G → G
  replaceMask : List Bool → G → G × Except GridRefusal Unit
  clampUnmasked : α → α → G → G
  build : List G → Except GridRefusal S
  reduce : (List α → α) → S → G

/-- A call, with the places of the grids and stacks that it works on. -/
inductive GridCall (α : Type) where
  | withMask (rows cols : UInt64) (values : List α) (mask : List Bool)
  | ofValues (rows cols : UInt64) (values : List α)
  | ofRow (values : List α)
  | ofRows (rows : List (List α))
  | filled (rows cols : UInt64) (value : α) (mask : List Bool)
  | copy (place : Nat)
  | map (place : Nat) (function : α → α)
  | zipWith (left right : Nat) (rule : MaskRule) (function : α → α → α)
  | maskWhere (place : Nat) (test : α → Bool)
  | replaceMask (place : Nat) (mask : List Bool)
  | clampUnmasked (place : Nat) (low high : α)
  | build (places : List Nat)
  | reduce (place : Nat) (function : List α → α)

/-- The values that a call brings along can be counted in a word. -/
def GridCall.Addressable {α : Type} : GridCall α → Prop
  | withMask _ _ values _ | ofValues _ _ values | ofRow values =>
    values.length < UInt64.size
  | ofRows rows => rows.length < UInt64.size ∧ rows.flatten.length < UInt64.size
  | _ => True

/-- The grids and stacks that are held. -/
structure Bench (G S : Type) where
  grids : List G
  stacked : List S
  deriving Repr, DecidableEq

namespace Bench

variable {G S : Type}

def empty : Bench G S :=
  ⟨[], []⟩

def at_ {β : Type} (held : List β) (place : Nat) : Except GridRefusal β :=
  match held[place]? with
  | some item => .ok item
  | none => .error (.absent place)

/-- Hold one more grid, if it has been made. -/
def putGrid (bench : Bench G S) : Except GridRefusal G →
    Bench G S × Except GridRefusal Unit
  | .ok grid => ({ bench with grids := bench.grids ++ [grid] }, .ok ())
  | .error refusal => (bench, .error refusal)

def putStack (bench : Bench G S) : Except GridRefusal S →
    Bench G S × Except GridRefusal Unit
  | .ok stack => ({ bench with stacked := bench.stacked ++ [stack] }, .ok ())
  | .error refusal => (bench, .error refusal)

/-- Edit a grid where it stands. -/
def edit (bench : Bench G S) (place : Nat)
    (change : G → G × Except GridRefusal Unit) :
    Bench G S × Except GridRefusal Unit :=
  match bench.grids[place]? with
  | none => (bench, .error (.absent place))
  | some grid =>
    ({ bench with grids := bench.grids.set place (change grid).1 }, (change grid).2)

end Bench

namespace GridTools

variable {α G S : Type}

/-- What is held after a call, and whether the call succeeds. -/
def perform (tools : GridTools α G S) (bench : Bench G S) :
    GridCall α → Bench G S × Except GridRefusal Unit
  | .withMask rows cols values mask =>
    bench.putGrid (tools.withMask rows cols values mask)
  | .ofValues rows cols values => bench.putGrid (tools.ofValues rows cols values)
  | .ofRow values => bench.putGrid (.ok (tools.ofRow values))
  | .ofRows rows => bench.putGrid (tools.ofRows rows)
  | .filled rows cols value mask => bench.putGrid (tools.filled rows cols value mask)
  | .copy place => bench.putGrid (Bench.at_ bench.grids place)
  | .map place function =>
    bench.putGrid ((Bench.at_ bench.grids place).map (tools.map function))
  | .zipWith left right rule function =>
    bench.putGrid do
      let first ← Bench.at_ bench.grids left
      let second ← Bench.at_ bench.grids right
      tools.zipWith rule function first second
  | .maskWhere place test =>
    bench.edit place fun grid => (tools.maskWhere test grid, .ok ())
  | .replaceMask place mask => bench.edit place (tools.replaceMask mask)
  | .clampUnmasked place low high =>
    bench.edit place fun grid => (tools.clampUnmasked low high grid, .ok ())
  | .build places =>
    bench.putStack do tools.build (← readAll (Bench.at_ bench.grids) places)
  | .reduce place function =>
    bench.putGrid ((Bench.at_ bench.stacked place).map (tools.reduce function))

/-- What is held after some calls, those that fail among them. -/
def performAll (tools : GridTools α G S) (calls : List (GridCall α))
    (bench : Bench G S) : Bench G S :=
  calls.foldl (fun reached call => (tools.perform reached call).1) bench

/-- What some calls come to from nothing. -/
def reach (tools : GridTools α G S) (calls : List (GridCall α)) : Bench G S :=
  tools.performAll calls .empty

/-- A mask that is refused leaves the grid as it was. -/
def Careful (tools : GridTools α G S) : Prop :=
  ∀ mask grid refusal, (tools.replaceMask mask grid).2 = .error refusal →
    (tools.replaceMask mask grid).1 = grid

end GridTools

/-! ## Calls that fail -/

namespace Bench

variable {G S : Type} {bench : Bench G S} {refusal : GridRefusal}

theorem putGrid_of_error {outcome : Except GridRefusal G}
    (fails : (bench.putGrid outcome).2 = .error refusal) :
    (bench.putGrid outcome).1 = bench := by
  cases outcome with
  | ok grid => cases fails
  | error other => rfl

theorem putStack_of_error {outcome : Except GridRefusal S}
    (fails : (bench.putStack outcome).2 = .error refusal) :
    (bench.putStack outcome).1 = bench := by
  cases outcome with
  | ok stack => cases fails
  | error other => rfl

theorem edit_of_error {place : Nat} {change : G → G × Except GridRefusal Unit}
    (keeps : ∀ grid, (change grid).2 = .error refusal → (change grid).1 = grid)
    (fails : (bench.edit place change).2 = .error refusal) :
    (bench.edit place change).1 = bench := by
  unfold edit at fails ⊢
  cases found : bench.grids[place]? with
  | none => rfl
  | some grid =>
      rw [found] at fails
      obtain ⟨inside, rfl⟩ := List.getElem?_eq_some_iff.mp found
      dsimp only
      rw [keeps _ fails, List.set_getElem_self inside]

end Bench

theorem GridTools.perform_of_error {α G S : Type} {tools : GridTools α G S}
    (careful : tools.Careful) {bench : Bench G S} {call : GridCall α}
    {refusal : GridRefusal} (fails : (tools.perform bench call).2 = .error refusal) :
    (tools.perform bench call).1 = bench := by
  cases call with
  | maskWhere place test => exact Bench.edit_of_error (fun _ => nofun) fails
  | clampUnmasked place low high => exact Bench.edit_of_error (fun _ => nofun) fails
  | replaceMask place mask =>
      exact Bench.edit_of_error (fun grid => careful mask grid refusal) fails
  | build places => exact Bench.putStack_of_error fails
  | _ => exact Bench.putGrid_of_error fails

/-! ## Calls that read a buffer -/

/-- An outcome that does not come from reading outside of a buffer. -/
def StaysInside {β : Type} (outcome : Except GridRefusal β) : Prop :=
  ∀ place, outcome ≠ .error (.outside place)

namespace StaysInside

variable {β γ : Type} {outcome : Except GridRefusal β}

theorem ok (value : β) : StaysInside (.ok value : Except GridRefusal β) :=
  fun _ => nofun

theorem bind {next : β → Except GridRefusal γ} (stays : StaysInside outcome)
    (follows : ∀ value, StaysInside (next value)) : StaysInside (outcome >>= next) := by
  cases outcome with
  | ok value => exact follows value
  | error refusal =>
      intro place same
      cases same
      exact stays place rfl

theorem map (function : β → γ) (stays : StaysInside outcome) :
    StaysInside (outcome.map function) := by
  cases outcome with
  | ok value => exact ok (function value)
  | error refusal =>
      intro place same
      cases same
      exact stays place rfl

theorem mapError {ε : Type} {function : ε → GridRefusal} (outcome : Except ε β)
    (elsewhere : ∀ fault place, function fault ≠ .outside place) :
    StaysInside (outcome.mapError function) := by
  cases outcome with
  | ok value => exact ok value
  | error fault =>
      intro place same
      exact elsewhere fault place (Except.error.inj same)

theorem at_ (held : List β) (place : Nat) : StaysInside (Bench.at_ held place) := by
  unfold Bench.at_
  cases held[place]? with
  | none => exact fun _ => nofun
  | some item => exact ok item

theorem readAll {ι : Type} {read : ι → Except GridRefusal β}
    (stays : ∀ item, StaysInside (read item)) (items : List ι) :
    StaysInside (FuzzyGrid.readAll read items) := by
  induction items with
  | nil => exact ok []
  | cons item rest induction =>
      intro place same
      unfold FuzzyGrid.readAll at same
      split at same
      · rename_i refusal fails
        cases same
        exact stays item place fails
      · split at same
        · rename_i refusal fails
          cases same
          exact induction place fails
        · cases same

theorem putGrid {G S : Type} {bench : Bench G S} {outcome : Except GridRefusal G}
    (stays : StaysInside outcome) : StaysInside (bench.putGrid outcome).2 := by
  cases outcome with
  | ok grid => exact ok ()
  | error refusal =>
      intro place same
      cases same
      exact stays place rfl

theorem putStack {G S : Type} {bench : Bench G S} {outcome : Except GridRefusal S}
    (stays : StaysInside outcome) : StaysInside (bench.putStack outcome).2 := by
  cases outcome with
  | ok stack => exact ok ()
  | error refusal =>
      intro place same
      cases same
      exact stays place rfl

theorem edit {G S : Type} {bench : Bench G S}
    {change : G → G × Except GridRefusal Unit}
    (stays : ∀ grid, StaysInside (change grid).2) (place : Nat) :
    StaysInside (bench.edit place change).2 := by
  unfold Bench.edit
  cases bench.grids[place]? with
  | none => exact fun _ => nofun
  | some grid => exact stays grid

end StaysInside

namespace GridTools

variable {α G S : Type} {tools : GridTools α G S}

/-- No operation reads outside of a buffer. -/
structure Inside (tools : GridTools α G S) : Prop where
  withMask : ∀ rows cols values mask,
    StaysInside (tools.withMask rows cols values mask)
  ofValues : ∀ rows cols values, StaysInside (tools.ofValues rows cols values)
  ofRows : ∀ rows, StaysInside (tools.ofRows rows)
  filled : ∀ rows cols value mask, StaysInside (tools.filled rows cols value mask)
  zipWith : ∀ rule function left right,
    StaysInside (tools.zipWith rule function left right)
  replaceMask : ∀ mask grid, StaysInside (tools.replaceMask mask grid).2
  build : ∀ grids, StaysInside (tools.build grids)

theorem Inside.perform (inside : tools.Inside) (bench : Bench G S)
    (call : GridCall α) : StaysInside (tools.perform bench call).2 := by
  cases call with
  | withMask rows cols values mask =>
      exact (inside.withMask rows cols values mask).putGrid
  | ofValues rows cols values => exact (inside.ofValues rows cols values).putGrid
  | ofRow values => exact (StaysInside.ok _).putGrid
  | ofRows rows => exact (inside.ofRows rows).putGrid
  | filled rows cols value mask => exact (inside.filled rows cols value mask).putGrid
  | copy place => exact (StaysInside.at_ _ place).putGrid
  | map place function => exact ((StaysInside.at_ _ place).map _).putGrid
  | zipWith left right rule function =>
      refine ((StaysInside.at_ _ left).bind fun first => ?_).putGrid
      exact (StaysInside.at_ _ right).bind (inside.zipWith rule function first)
  | maskWhere place test => exact StaysInside.edit (fun _ => StaysInside.ok ()) place
  | replaceMask place mask => exact StaysInside.edit (inside.replaceMask mask) place
  | clampUnmasked place low high =>
      exact StaysInside.edit (fun _ => StaysInside.ok ()) place
  | build places =>
      have gathered := StaysInside.readAll (StaysInside.at_ bench.grids) places
      exact (gathered.bind inside.build).putStack
  | reduce place function => exact ((StaysInside.at_ _ place).map _).putGrid

end GridTools

/-! ## Representations that agree -/

/-- Two outcomes that fail alike or succeed with related results. -/
inductive MatchedOutcomes {ε β γ : Type} (related : β → γ → Prop) :
    Except ε β → Except ε γ → Prop where
  | ok {first : β} {second : γ} (same : related first second) :
      MatchedOutcomes related (.ok first) (.ok second)
  | error (fault : ε) : MatchedOutcomes related (.error fault) (.error fault)

namespace MatchedOutcomes

variable {ε β γ δ ζ : Type} {related : β → γ → Prop} {relatedNext : δ → ζ → Prop}
  {first : Except ε β} {second : Except ε γ}

theorem bind {next : β → Except ε δ} {other : γ → Except ε ζ}
    (same : MatchedOutcomes related first second)
    (follows : ∀ left right, related left right →
      MatchedOutcomes relatedNext (next left) (other right)) :
    MatchedOutcomes relatedNext (first >>= next) (second >>= other) := by
  cases same with
  | ok same => exact follows _ _ same
  | error fault => exact .error fault

theorem map {next : β → δ} {other : γ → ζ} (same : MatchedOutcomes related first second)
    (follows : ∀ left right, related left right →
      relatedNext (next left) (other right)) :
    MatchedOutcomes relatedNext (first.map next) (second.map other) := by
  cases same with
  | ok same => exact .ok (follows _ _ same)
  | error fault => exact .error fault

theorem readAll {ι : Type} {read : ι → Except ε β} {other : ι → Except ε γ}
    (same : ∀ item, MatchedOutcomes related (read item) (other item)) (items : List ι) :
    MatchedOutcomes (Forall₂ related) (FuzzyGrid.readAll read items)
      (FuzzyGrid.readAll other items) := by
  induction items with
  | nil => exact .ok .nil
  | cons item rest induction =>
      have head := same item
      unfold FuzzyGrid.readAll
      generalize read item = one at head ⊢
      generalize other item = another at head ⊢
      cases head with
      | error fault => exact .error fault
      | ok head =>
          generalize FuzzyGrid.readAll read rest = ones at induction ⊢
          generalize FuzzyGrid.readAll other rest = others at induction ⊢
          cases induction with
          | error fault => exact .error fault
          | ok tail => exact .ok (.cons head tail)

end MatchedOutcomes

section

variable {G H S T : Type} {related : G → H → Prop} {relatedStack : S → T → Prop}

/-- Grids and stacks that are related place by place. -/
structure Bench.Alike (related : G → H → Prop) (relatedStack : S → T → Prop)
    (first : Bench G S) (second : Bench H T) : Prop where
  grids : Forall₂ related first.grids second.grids
  stacked : Forall₂ relatedStack first.stacked second.stacked

/-- What is held is alike after two calls, and these succeed or fail alike. -/
structure Bench.Together (related : G → H → Prop) (relatedStack : S → T → Prop)
    (first : Bench G S × Except GridRefusal Unit)
    (second : Bench H T × Except GridRefusal Unit) : Prop where
  held : Alike related relatedStack first.1 second.1
  outcome : first.2 = second.2

namespace Bench

variable {first : Bench G S} {second : Bench H T}

theorem Alike.at_ {β γ : Type} {relation : β → γ → Prop} {held : List β}
    {others : List γ} (alike : Forall₂ relation held others) (place : Nat) :
    MatchedOutcomes relation (Bench.at_ held place) (Bench.at_ others place) := by
  have length := alike.length_eq
  unfold Bench.at_
  rcases Nat.lt_or_ge place held.length with inside | outside
  · have also : place < others.length := length ▸ inside
    rw [List.getElem?_eq_getElem inside, List.getElem?_eq_getElem also]
    exact .ok (alike.get inside also)
  · rw [List.getElem?_eq_none outside, List.getElem?_eq_none (length ▸ outside)]
    exact .error _

theorem Alike.putGrid (alike : Alike related relatedStack first second)
    {outcome : Except GridRefusal G} {other : Except GridRefusal H}
    (same : MatchedOutcomes related outcome other) :
    Together related relatedStack (first.putGrid outcome) (second.putGrid other) := by
  cases same with
  | ok same =>
      exact ⟨⟨List.rel_append alike.grids (.cons same .nil), alike.stacked⟩, rfl⟩
  | error fault => exact ⟨alike, rfl⟩

theorem Alike.putStack (alike : Alike related relatedStack first second)
    {outcome : Except GridRefusal S} {other : Except GridRefusal T}
    (same : MatchedOutcomes relatedStack outcome other) :
    Together related relatedStack (first.putStack outcome)
      (second.putStack other) := by
  cases same with
  | ok same =>
      exact ⟨⟨alike.grids, List.rel_append alike.stacked (.cons same .nil)⟩, rfl⟩
  | error fault => exact ⟨alike, rfl⟩

private theorem forall₂_set {β γ : Type} {relation : β → γ → Prop} {held : List β}
    {others : List γ} (alike : Forall₂ relation held others) {item : β} {other : γ}
    (same : relation item other) (place : Nat) :
    Forall₂ relation (held.set place item) (others.set place other) := by
  induction alike generalizing place with
  | nil => exact .nil
  | cons head tail induction =>
      cases place with
      | zero => exact .cons same tail
      | succ place => exact .cons head (induction place)

theorem Alike.edit (alike : Alike related relatedStack first second)
    {change : G → G × Except GridRefusal Unit}
    {other : H → H × Except GridRefusal Unit}
    (same : ∀ grid another, related grid another →
      related (change grid).1 (other another).1 ∧ (change grid).2 = (other another).2)
    (place : Nat) :
    Together related relatedStack (first.edit place change)
      (second.edit place other) := by
  have length := alike.grids.length_eq
  unfold Bench.edit
  rcases Nat.lt_or_ge place first.grids.length with inside | outside
  · have also : place < second.grids.length := length ▸ inside
    obtain ⟨edited, outcome⟩ := same _ _ (alike.grids.get inside also)
    rw [List.getElem?_eq_getElem inside, List.getElem?_eq_getElem also]
    exact ⟨⟨forall₂_set alike.grids edited place, alike.stacked⟩, outcome⟩
  · rw [List.getElem?_eq_none outside, List.getElem?_eq_none (length ▸ outside)]
    exact ⟨alike, rfl⟩

end Bench

namespace GridTools

variable {α : Type}

/-- Operations that, one by one, come to related grids and stacks from related
ones, or fail alike, grids being made by none but the calls that are admitted. -/
structure Agree (admits : GridCall α → Prop) (tools : GridTools α G S)
    (others : GridTools α H T) (related : G → H → Prop)
    (relatedStack : S → T → Prop) : Prop where
  withMask : ∀ rows cols values mask, admits (.withMask rows cols values mask) →
    MatchedOutcomes related (tools.withMask rows cols values mask)
      (others.withMask rows cols values mask)
  ofValues : ∀ rows cols values, admits (.ofValues rows cols values) →
    MatchedOutcomes related (tools.ofValues rows cols values)
      (others.ofValues rows cols values)
  ofRow : ∀ values, admits (.ofRow values) →
    related (tools.ofRow values) (others.ofRow values)
  ofRows : ∀ rows, admits (.ofRows rows) →
    MatchedOutcomes related (tools.ofRows rows) (others.ofRows rows)
  filled : ∀ rows cols value mask, admits (.filled rows cols value mask) →
    MatchedOutcomes related (tools.filled rows cols value mask)
      (others.filled rows cols value mask)
  map : ∀ function grid other, related grid other →
    related (tools.map function grid) (others.map function other)
  zipWith : ∀ rule function left otherLeft right otherRight,
    related left otherLeft → related right otherRight →
      MatchedOutcomes related (tools.zipWith rule function left right)
        (others.zipWith rule function otherLeft otherRight)
  maskWhere : ∀ test grid other, related grid other →
    related (tools.maskWhere test grid) (others.maskWhere test other)
  replaceMask : ∀ mask grid other, related grid other →
    related (tools.replaceMask mask grid).1 (others.replaceMask mask other).1 ∧
      (tools.replaceMask mask grid).2 = (others.replaceMask mask other).2
  clampUnmasked : ∀ low high grid other, related grid other →
    related (tools.clampUnmasked low high grid) (others.clampUnmasked low high other)
  build : ∀ grids otherGrids, Forall₂ related grids otherGrids →
    MatchedOutcomes relatedStack (tools.build grids) (others.build otherGrids)
  reduce : ∀ function stack other, relatedStack stack other →
    related (tools.reduce function stack) (others.reduce function other)

variable {admits : GridCall α → Prop} {tools : GridTools α G S}
  {others : GridTools α H T} {first : Bench G S} {second : Bench H T}

/-- One call takes benches that are alike to benches that are alike. -/
theorem Agree.perform (agree : Agree admits tools others related relatedStack)
    (alike : Bench.Alike related relatedStack first second) {call : GridCall α}
    (admitted : admits call) :
    Bench.Together related relatedStack (tools.perform first call)
      (others.perform second call) := by
  cases call with
  | withMask rows cols values mask =>
      exact alike.putGrid (agree.withMask rows cols values mask admitted)
  | ofValues rows cols values =>
      exact alike.putGrid (agree.ofValues rows cols values admitted)
  | ofRow values => exact alike.putGrid (.ok (agree.ofRow values admitted))
  | ofRows rows => exact alike.putGrid (agree.ofRows rows admitted)
  | filled rows cols value mask =>
      exact alike.putGrid (agree.filled rows cols value mask admitted)
  | copy place => exact alike.putGrid (Bench.Alike.at_ alike.grids place)
  | map place function =>
      exact alike.putGrid ((Bench.Alike.at_ alike.grids place).map (agree.map function))
  | zipWith left right rule function =>
      refine alike.putGrid ((Bench.Alike.at_ alike.grids left).bind ?_)
      intro one another sameLeft
      refine (Bench.Alike.at_ alike.grids right).bind ?_
      intro two other sameRight
      exact agree.zipWith rule function one another two other sameLeft sameRight
  | maskWhere place test =>
      exact alike.edit (fun _ _ same => ⟨agree.maskWhere test _ _ same, rfl⟩) place
  | replaceMask place mask => exact alike.edit (agree.replaceMask mask) place
  | clampUnmasked place low high =>
      exact alike.edit (fun _ _ same => ⟨agree.clampUnmasked low high _ _ same, rfl⟩)
        place
  | build places =>
      have gathered := MatchedOutcomes.readAll (Bench.Alike.at_ alike.grids) places
      exact alike.putStack (gathered.bind agree.build)
  | reduce place function =>
      exact alike.putGrid
        ((Bench.Alike.at_ alike.stacked place).map (agree.reduce function))

theorem Agree.performAll (agree : Agree admits tools others related relatedStack)
    {calls : List (GridCall α)} (admitted : ∀ call ∈ calls, admits call)
    (alike : Bench.Alike related relatedStack first second) :
    Bench.Alike related relatedStack (tools.performAll calls first)
      (others.performAll calls second) := by
  induction calls generalizing first second with
  | nil => exact alike
  | cons call rest induction =>
      have ⟨here, later⟩ := List.forall_mem_cons.mp admitted
      exact induction later (agree.perform alike here).held

theorem Agree.reach (agree : Agree admits tools others related relatedStack)
    {calls : List (GridCall α)} (admitted : ∀ call ∈ calls, admits call) :
    Bench.Alike related relatedStack (tools.reach calls) (others.reach calls) :=
  agree.performAll admitted ⟨.nil, .nil⟩

end GridTools

end

end FuzzyGrid
