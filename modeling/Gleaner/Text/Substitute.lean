import Gleaner.Text.Basic

/-!
# Substitution from left to right

`substitute rule` walks once over a text.  Where `rule` applies to what lies ahead, the characters
it took are replaced and the walk goes on behind them; nothing that was put in is looked at again.

* `Rule` — what a rule says about the text ahead of it.
* `substitute` — the walk, and what it does to the first character.
* `replace`, `erase` — the walks for a fixed text and for a class of spans.
-/

namespace Gleaner.Text

/-- A rule looks at the first character and the rest of the text ahead.  When it applies it gives
how many characters it takes *beyond the first* and what stands in their place. -/
abbrev Rule := Char → Text → Option (Nat × Text)

/-- One walk over a text; `skip` counts the characters that an applied rule still takes. -/
def substituteFrom (rule : Rule) (skip : Nat) : Text → Text
  | [] => []
  | c :: rest =>
      match skip with
      | n + 1 => substituteFrom rule n rest
      | 0 =>
          match rule c rest with
          | some (more, put) => put ++ substituteFrom rule more rest
          | none => c :: substituteFrom rule 0 rest

/-- Replaces whatever the rule takes, from left to right. -/
def substitute (rule : Rule) (t : Text) : Text :=
  substituteFrom rule 0 t

/-- The characters that are still to be taken can be dropped beforehand. -/
theorem substituteFrom_eq_drop (rule : Rule) (n : Nat) (t : Text) :
    substituteFrom rule n t = substitute rule (t.drop n) := by
  induction t generalizing n with
  | nil => simp [substitute, substituteFrom]
  | cons c rest ih =>
      cases n with
      | zero => rfl
      | succ n => simpa [substituteFrom] using ih n

@[simp] theorem substitute_nil (rule : Rule) : substitute rule [] = [] := rfl

/-- Where the rule does not apply the character stays. -/
theorem substitute_cons_of_none {rule : Rule} {c : Char} {rest : Text} (h : rule c rest = none) :
    substitute rule (c :: rest) = c :: substitute rule rest := by
  simp [substitute, substituteFrom, h]

/-- Where the rule applies the walk goes on behind what it takes. -/
theorem substitute_cons_of_some {rule : Rule} {c : Char} {rest put : Text} {more : Nat}
    (h : rule c rest = some (more, put)) :
    substitute rule (c :: rest) = put ++ substitute rule (rest.drop more) := by
  rw [← substituteFrom_eq_drop]
  simp [substitute, substituteFrom, h]

/-- Removes the spans that begin where `span` applies; it gives their length beyond the first
character. -/
def erase (span : Char → Text → Option Nat) (t : Text) : Text :=
  substitute (fun c rest => (span c rest).map fun more => (more, [])) t

/-- Replaces every occurrence of a text that is not empty. -/
def replace (p put : Text) (t : Text) : Text :=
  substitute
    (fun c rest => if startsWith (c :: rest) p then some (p.length - 1, put) else none) t

/-- Replaces each maximal run of characters of a class by one text. -/
def replaceRuns (p : Char → Bool) (put : Text) (t : Text) : Text :=
  substitute
    (fun c rest => if p c then some ((rest.takeWhile p).length, put) else none) t

end Gleaner.Text
