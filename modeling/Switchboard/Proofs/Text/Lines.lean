import Switchboard.Proofs.Text.Base64
/-!
# Lines of base64 text

A line break is a return and a newline right behind it (`Text.splitLines`). Symbols that are wrapped
split into lines that are full, but for the last one, and none of which is empty
(`Base64.brokenInto_wrap`): there is no line break behind the last line, not even where it is full.
-/

namespace Switchboard

namespace Text

variable {c : Char} {line rest cs : List Char}

/-- Puts a character in front of the first line. -/
def inFront (c : Char) : List (List Char) → List (List Char)
  | [] => [[c]]
  | line :: lines => (c :: line) :: lines

/-- The lines of a text: what stands in front of its line breaks, between them, and behind them. -/
def splitLines : List Char → List (List Char)
  | [] => [[]]
  | [c] => [[c]]
  | c :: d :: rest =>
    if c = '\r' ∧ d = '\n' then [] :: splitLines rest else inFront c (splitLines (d :: rest))

/-- Behind a line break at the end there is one more line, which is empty. -/
example : splitLines ['a', '\r', '\n', 'b', '\r', '\n'] = [['a'], ['b'], []] := by decide

theorem splitLines_cons (hc : c ≠ '\r') (rest : List Char) :
    splitLines (c :: rest) = inFront c (splitLines rest) := by
  cases rest with
  | nil => rfl
  | cons d rest => rw [splitLines, if_neg fun h => hc h.1]

/-- A text without returns is one line. -/
theorem splitLines_of_not_mem (h : '\r' ∉ line) : splitLines line = [line] := by
  induction line with
  | nil => rfl
  | cons c line ih =>
    rw [List.mem_cons, not_or] at h
    obtain ⟨hc, hline⟩ := h
    rw [splitLines_cons (Ne.symm hc), ih hline]
    rfl

/-- **A line break ends a line.** -/
theorem splitLines_append (h : '\r' ∉ line) (rest : List Char) :
    splitLines (line ++ '\r' :: '\n' :: rest) = line :: splitLines rest := by
  induction line with
  | nil =>
    rw [List.nil_append, splitLines, if_pos ⟨rfl, rfl⟩]
  | cons c line ih =>
    rw [List.mem_cons, not_or] at h
    obtain ⟨hc, hline⟩ := h
    rw [List.cons_append, splitLines_cons (Ne.symm hc), ih hline]
    rfl

end Text

namespace Base64

open Text (splitLines splitLines_of_not_mem splitLines_append)

variable {n : Nat} {line cs : List Char} {lines : List (List Char)}

/-- **How symbols are broken into lines** of at most so many. -/
structure BrokenInto (n : Nat) (lines : List (List Char)) (cs : List Char) : Prop where
  /-- Every line but the last is full, -/
  full : ∀ line ∈ lines.dropLast, line.length = n
  /-- there is a last line, and it is not empty, -/
  last : ∃ line, lines.getLast? = some line ∧ 1 ≤ line.length ∧ line.length ≤ n
  /-- in no line is there anything of a line break, -/
  plain : ∀ line ∈ lines, '\r' ∉ line ∧ '\n' ∉ line
  /-- and one after the other they are the symbols. -/
  whole : lines.flatten = cs

namespace BrokenInto

theorem single (hplain : '\r' ∉ line ∧ '\n' ∉ line) (hpos : 1 ≤ line.length)
    (hle : line.length ≤ n) : BrokenInto n [line] line where
  full := List.forall_mem_nil _
  last := ⟨line, rfl, hpos, hle⟩
  plain := List.forall_mem_singleton.2 hplain
  whole := List.flatten_singleton

/-- A full line in front of others. -/
theorem cons (h : BrokenInto n lines cs) (hplain : '\r' ∉ line ∧ '\n' ∉ line)
    (hline : line.length = n) : BrokenInto n (line :: lines) (line ++ cs) := by
  obtain ⟨last, hlast, hlength⟩ := h.last
  have hne : lines ≠ [] := by
    rintro rfl
    cases hlast
  refine ⟨?_, ⟨last, ?_, hlength⟩, List.forall_mem_cons.2 ⟨hplain, h.plain⟩, ?_⟩
  · rw [List.dropLast_cons_of_ne_nil hne]
    exact List.forall_mem_cons.2 ⟨hline, h.full⟩
  · rw [List.getLast?_cons, hlast, Option.getD_some]
  · rw [List.flatten_cons, h.whole]

end BrokenInto

/-- **What is wrapped splits into lines again,** and they are broken as they should be. -/
theorem brokenInto_wrap (hne : cs ≠ []) (hplain : '\r' ∉ cs ∧ '\n' ∉ cs) :
    BrokenInto lineLength (splitLines (wrap cs)) cs := by
  fun_induction wrap cs with
  | case1 cs hshort =>
    rw [splitLines_of_not_mem hplain.1]
    exact .single hplain (List.length_pos_iff.2 hne) hshort
  | case2 cs hlong ih =>
    -- Something is left behind a line that is taken away, however much that is.
    have hrest : cs.drop lineLength ≠ [] := fun h => hlong (List.drop_eq_nil_iff.1 h)
    have htake : '\r' ∉ cs.take lineLength ∧ '\n' ∉ cs.take lineLength :=
      hplain.imp (mt List.mem_of_mem_take) (mt List.mem_of_mem_take)
    have hdrop : '\r' ∉ cs.drop lineLength ∧ '\n' ∉ cs.drop lineLength :=
      hplain.imp (mt List.mem_of_mem_drop) (mt List.mem_of_mem_drop)
    have hlines := (ih hrest hdrop).cons htake
      (List.length_take_of_le (Nat.le_of_not_le hlong))
    rw [List.take_append_drop] at hlines
    rw [splitLines_append htake.1]
    exact hlines

/-- Nothing comes to one empty line. -/
theorem wrap_nil : wrap [] = [] := by
  rw [wrap]
  exact dif_pos (Nat.zero_le _)

/-- Nothing that is written ends a line. -/
theorem not_mem_encode {a : Alphabet} {padded : Bool} {bs : List UInt8} :
    '\r' ∉ encode a padded bs ∧ '\n' ∉ encode a padded bs := by
  have hblank {c : Char} (hc : Text.isBlank c = true) : c ∉ encode a padded bs := by
    intro h
    rw [(plain_of_mem_encode h).2] at hc
    cases hc
  exact ⟨hblank rfl, hblank rfl⟩

/-- There is a symbol for some byte. -/
theorem encode_ne_nil {a : Alphabet} {padded : Bool} {bs : List UInt8} (h : bs ≠ []) :
    encode a padded bs ≠ [] := by
  have hpos := Nat.lt_of_le_of_lt (Nat.zero_le _) (lt_length_numbers h)
  intro hnil
  rw [encode_eq] at hnil
  have hnone := List.map_eq_nil_iff.1 (List.append_eq_nil_iff.1 hnil).1
  rw [hnone] at hpos
  exact Nat.lt_irrefl 0 hpos

end Base64

end Switchboard
