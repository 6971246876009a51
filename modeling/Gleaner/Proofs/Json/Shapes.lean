import Gleaner.Json.Access
import Mathlib

/-!
# Shapes of values

What is read from a reply has no promise about its shape.  Where a program looks into a member and
has a default for a missing one, it needs that the member is missing or has a shape in turn.

* `Record` — an object whose members of some names are missing or have a property each.  With a
  default that has the property, `record_cons_iff` reads one member off.
* `Pruned` — a value from which members are left out, at any depth.
* `Lasting` — the properties that are not lost by this.  `lasting_record` builds them up.
-/

namespace Gleaner.Json

/-! ## Records -/

/-- A value is an object. -/
def IsObject (v : Json) : Prop :=
  v.kind = .dict

/-- A member is missing or has a property. -/
def Member (name : Text) (P : Json → Prop) (v : Json) : Prop :=
  ∀ u, v.member? name = some u → P u

/-- An object whose members of some names are missing or have a property. -/
def Record (members : List (Text × (Json → Prop))) (v : Json) : Prop :=
  v.IsObject ∧ ∀ m ∈ members, v.Member m.1 m.2

section

variable {name : Text} {P : Json → Prop} {d v : Json}

/-- Where a default has the property, it stands for the missing member. -/
lemma member_iff (hd : P d) : v.Member name P ↔ P ((v.member? name).getD d) := by
  rw [Member]
  cases v.member? name with
  | none => simp [hd]
  | some u => simp

lemma isObject_empty : IsObject (.obj []) := rfl

/-- In the empty object every member is missing. -/
lemma record_empty {members : List (Text × (Json → Prop))} : Record members (.obj []) := by
  refine ⟨rfl, fun m _ u hu => ?_⟩
  cases hu

lemma record_nil_iff : Record [] v ↔ v.IsObject := by
  simp [Record]

lemma record_cons_iff {members : List (Text × (Json → Prop))} (hd : P d) :
    Record ((name, P) :: members) v ↔ P ((v.member? name).getD d) ∧ Record members v := by
  rw [Record, List.forall_mem_cons, member_iff hd, Record, and_left_comm]

end

lemma getD_eq_ok {v : Json} (h : v.IsObject) (name : Text) (d : Json) :
    v.getD name d = .ok ((v.member? name).getD d) := by
  cases v with
  | obj ms => rfl
  | _ => cases h

lemma getD_eq_error {v : Json} (h : ¬v.IsObject) (name : Text) (d : Json) :
    v.getD name d = .error (.noMember v.kind "get") := by
  cases v with
  | obj ms => exact absurd rfl h
  | _ => rfl

/-! ## Members that are left out -/

/-- A value from which members are left out, at any depth. -/
inductive Pruned : Json → Json → Prop where
  | whole (v : Json) : Pruned v v
  | object {ms ms' : List (Text × Json)} (source : Text → Json)
      (there : ∀ name u, find? name ms' = some u → find? name ms = some (source name))
      (inner : ∀ name u, find? name ms' = some u → Pruned (source name) u) :
      Pruned (.obj ms) (.obj ms')
  | list {vs vs' : List Json} (inner : List.Forall₂ Pruned vs vs') : Pruned (.arr vs) (.arr vs')

section

variable {v v' : Json}

lemma Pruned.exists_member? (h : Pruned v v') {name : Text} {u' : Json}
    (hu' : v'.member? name = some u') : ∃ u, v.member? name = some u ∧ Pruned u u' := by
  cases h with
  | whole => exact ⟨u', hu', .whole u'⟩
  | object source there inner => exact ⟨source name, there name u' hu', inner name u' hu'⟩
  | list => cases hu'

/-- No member comes out of nothing. -/
lemma eq_nil_of_forall_find? {ms ms' : List (Text × Json)} {source : Text → Json}
    (there : ∀ name u, find? name ms' = some u → find? name ms = some (source name))
    (hms : ms = []) : ms' = [] := by
  cases ms' with
  | nil => rfl
  | cons m rest =>
      have hm := there m.1 m.2 (by simp [find?])
      rw [hms] at hm
      cases hm

lemma Pruned.kind_eq (h : Pruned v v') : v'.kind = v.kind := by
  cases h <;> rfl

lemma Pruned.isTruthy (h : Pruned v v') (htruthy : v'.isTruthy = true) : v.isTruthy = true := by
  cases h with
  | whole => exact htruthy
  | @object ms ms' source there inner =>
      cases ms with
      | nil =>
          rw [eq_nil_of_forall_find? there rfl] at htruthy
          cases htruthy
      | cons => rfl
  | list inner =>
      cases inner with
      | nil => cases htruthy
      | cons => rfl

/-- A property that is not lost where members are left out. -/
def Lasting (P : Json → Prop) : Prop :=
  ∀ v v', Pruned v v' → P v → P v'

lemma lasting_isObject : Lasting IsObject :=
  fun _ _ h hv => h.kind_eq.trans hv

lemma Lasting.member {P : Json → Prop} (hP : Lasting P) (name : Text) :
    Lasting (Member name P) := by
  intro v v' h hv u' hu'
  obtain ⟨u, hu, hpruned⟩ := h.exists_member? hu'
  exact hP u u' hpruned (hv u hu)

/-- **What is said of members that may be missing lasts.** -/
lemma lasting_record {members : List (Text × (Json → Prop))}
    (h : ∀ m ∈ members, Lasting m.2) : Lasting (Record members) :=
  fun v v' hpruned hv => ⟨lasting_isObject v v' hpruned hv.1,
    fun m hm => (h m hm).member m.1 v v' hpruned (hv.2 m hm)⟩

lemma Lasting.forall₂ {P : Json → Prop} (hP : Lasting P) {vs vs' : List Json}
    (h : List.Forall₂ Pruned vs vs') (hvs : ∀ u ∈ vs, P u) : ∀ u ∈ vs', P u := by
  induction h with
  | nil => exact hvs
  | cons hhead _ ih =>
      rw [List.forall_mem_cons] at hvs ⊢
      exact ⟨hP _ _ hhead hvs.1, ih hvs.2⟩

end

end Gleaner.Json
