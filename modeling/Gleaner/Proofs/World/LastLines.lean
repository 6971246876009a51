import Gleaner.Proofs.Json.Numeral
import Gleaner.Proofs.World.Runs

/-!
# The last lines that were printed

A program that gives no value tells by the lines that it prints last how its work went.
`World.EndsWith` speaks about these lines.  Each printed line adds one (`endsWith_of_say`), a list
of lines adds them all (`exists_ends_forM_say`), and a count that stands in them can be read back
(`eq_of_endsWith_count`).
-/

namespace Gleaner

/-- The last lines that were printed, each of them given by its parts. -/
def World.EndsWith (w : World) (lines : List (List Text)) : Prop :=
  (lines.flatMap fun parts => (parts ++ [['\n']]).flatten) <:+ w.out

instance (w : World) (lines : List (List Text)) : Decidable (w.EndsWith lines) :=
  inferInstanceAs (Decidable (_ <:+ _))

section

variable {w w' : World} {lines : List (List Text)}

lemma endsWith_nil (w : World) : w.EndsWith [] :=
  List.nil_suffix

lemma endsWith_of_say {parts : List Text} {u : Unit} (hw : w.EndsWith lines)
    (h : Ends (say parts) w u w') : w'.EndsWith (lines ++ [parts]) := by
  obtain ⟨before, hout⟩ := hw
  rw [← ends_say.1 h]
  refine ⟨before, ?_⟩
  rw [List.flatMap_append, List.flatMap_singleton, ← List.append_assoc, hout]

/-- What follows a printed line is run in a world with the same files, which ends with this line. -/
lemma exists_of_say_endsWith {β : Type} {parts : List Text} {f : Unit → Program β} {b : β}
    (hw : w.EndsWith lines) (h : Ends (say parts >>= f) w b w') :
    ∃ v, v.files = w.files ∧ v.EndsWith (lines ++ [parts]) ∧ Ends (f ()) v b w' := by
  obtain ⟨_, v, hsay, h⟩ := ends_bind.1 h
  exact ⟨v, (sameFiles_say parts).of_ends hsay, endsWith_of_say hw hsay, h⟩

/-- Lines that are printed one after the other are the last ones. -/
lemma exists_ends_forM_say (more : List (List Text)) : ∀ {w : World} {lines : List (List Text)},
    w.EndsWith lines →
      ∃ w', Ends (more.forM say) w () w' ∧ Printed w w' ∧ w'.EndsWith (lines ++ more) := by
  induction more with
  | nil =>
      intro w lines hw
      exact ⟨w, ends_pure.2 ⟨rfl, rfl⟩, refl_of Printed w, by rwa [List.append_nil]⟩
  | cons parts more ih =>
      intro w lines hw
      obtain ⟨v, hsay, hv⟩ : ∃ v, Ends (say parts) w () v ∧ Printed w v := ⟨_, ends_say.2 rfl, rfl⟩
      obtain ⟨w', hends, hprinted, hlines⟩ := ih (endsWith_of_say hw hsay)
      refine ⟨w', ends_bind.2 ⟨(), v, hsay, hends⟩, trans_of Printed hv hprinted, ?_⟩
      rwa [List.append_assoc, List.singleton_append] at hlines

/-- Lines that were printed are the last ones, and no file has changed. -/
lemma endsWith_of_forM_say {lines : List (List Text)} (h : Ends (lines.forM say) w () w') :
    w'.files = w.files ∧ w'.EndsWith lines := by
  obtain ⟨w₁, hends, hprinted, hlines⟩ := exists_ends_forM_say lines (endsWith_nil w)
  obtain ⟨-, rfl⟩ := h.unique hends
  exact ⟨hprinted.files, hlines⟩

/-- The last character before the end of the last line. -/
lemma getLast?_of_endsWith (lines : List (List Text)) {parts : List Text} (t : Text) (c : Char)
    (h : w.EndsWith (lines ++ [parts])) (hparts : parts.flatten = t ++ [c]) :
    w.out.dropLast.getLast? = some c := by
  obtain ⟨before, hout⟩ := h
  rw [← hout, List.flatMap_append, List.flatMap_singleton, List.flatten_append, hparts,
    List.flatten_singleton, ← List.append_assoc, ← List.append_assoc, ← List.append_assoc,
    List.dropLast_concat, List.getLast?_concat]

/-- A number is known from the digits behind a blank. -/
lemma Text.ofNat_inj_of_append {s t : Text} {n k : Nat}
    (h : s ++ ' ' :: Text.ofNat n = t ++ ' ' :: Text.ofNat k) : n = k := by
  have hdigits : ∀ (u : Text) (i : Nat),
      (u ++ ' ' :: Text.ofNat i).reverse.takeWhile Char.isDigit = (Text.ofNat i).reverse := by
    intro u i
    rw [List.reverse_append, List.reverse_cons, List.append_assoc, List.takeWhile_append_of_pos]
    · simp
    · intro c hc
      exact Text.allDigits_ofNat i c (List.mem_reverse.1 hc)
  have hrev : (Text.ofNat n).reverse = (Text.ofNat k).reverse := by
    rw [← hdigits s n, h, hdigits t k]
  rw [← Text.digitsValue_ofNat n, List.reverse_injective hrev, Text.digitsValue_ofNat]

/-- Two lines that end with a count, and are followed by the same lines, have the same count. -/
lemma eq_of_endsWith_count {label t : Text} {n k : Nat} (hlabel : label = t ++ [' '])
    (hn : w.EndsWith ([label, Text.ofNat n] :: lines))
    (hk : w.EndsWith ([label, Text.ofNat k] :: lines)) : n = k := by
  subst hlabel
  obtain ⟨before, hbefore⟩ := hn
  obtain ⟨before', hbefore'⟩ := hk
  have h := hbefore.trans hbefore'.symm
  simp only [List.flatMap_cons, ← List.append_assoc, List.append_cancel_right_eq,
    List.flatten_append, List.flatten_cons, List.flatten_nil, List.append_nil] at h
  refine Text.ofNat_inj_of_append (s := before ++ t) (t := before' ++ t) ?_
  simpa using h

end

end Gleaner
