import Switchboard.Pattern.Search
/-!
# What a pattern reads

A meaning reads the text between two places, or not (`Core.Reads`). This says nothing of programs
and threads, and of what is preferred: it is what a match is.
-/

namespace Switchboard

namespace Pattern

/-! ## Places in a text -/

/-- From one place to the next, over a character of a kind. -/
def ReadsOne (kind : Char → Prop) (s t : Spot) : Prop :=
  ∃ c cs, s.rest = c :: cs ∧ kind c ∧ t = ⟨s.index + 1, some c, cs⟩

/-- From one place to another, over a text. -/
def ReadsText : List Char → Spot → Spot → Prop
  | [], s, t => t = s
  | c :: cs, s, t => ∃ r, ReadsOne (· = c) s r ∧ ReadsText cs r t

/-- From one place to another in so many steps. -/
def Iterates (R : Spot → Spot → Prop) : Nat → Spot → Spot → Prop
  | 0, s, t => t = s
  | n + 1, s, t => ∃ r, R s r ∧ Iterates R n r t

theorem iterates_succ {R : Spot → Spot → Prop} (n : Nat) (s t : Spot) :
    Iterates R (n + 1) s t ↔ ∃ r, Iterates R n s r ∧ R r t := by
  induction n generalizing s with
  | zero =>
    constructor
    · rintro ⟨r, hR, rfl⟩
      exact ⟨s, rfl, hR⟩
    · rintro ⟨r, rfl, hR⟩
      exact ⟨t, hR, rfl⟩
  | succ n ih =>
    constructor
    · rintro ⟨q, hq, h⟩
      obtain ⟨r, hr, hR⟩ := (ih q).1 h
      exact ⟨r, ⟨q, hq, hr⟩, hR⟩
    · rintro ⟨r, ⟨q, hq, hr⟩, hR⟩
      exact ⟨q, hq, (ih q).2 ⟨r, hr, hR⟩⟩

theorem iterates_add {R : Spot → Spot → Prop} (n m : Nat) (s t : Spot) :
    Iterates R (n + m) s t ↔ ∃ r, Iterates R n s r ∧ Iterates R m r t := by
  induction m generalizing t with
  | zero =>
    constructor
    · exact fun h => ⟨t, h, rfl⟩
    · rintro ⟨r, h, rfl⟩
      exact h
  | succ m ih =>
    rw [← Nat.add_assoc, iterates_succ]
    constructor
    · rintro ⟨q, hq, hR⟩
      obtain ⟨r, hr, h⟩ := (ih q).1 hq
      exact ⟨r, hr, (iterates_succ m r t).2 ⟨q, h, hR⟩⟩
    · rintro ⟨r, hr, h⟩
      obtain ⟨q, hq, hR⟩ := (iterates_succ m r t).1 h
      exact ⟨q, (ih q).2 ⟨r, hr, hq⟩, hR⟩

/-- The place is the other one or behind it in the text. -/
def Spot.Ahead (s t : Spot) : Prop := ∃ n, Iterates (ReadsOne fun _ => True) n s t

theorem Spot.Ahead.refl (s : Spot) : s.Ahead s := ⟨0, rfl⟩

theorem Spot.ahead_iff {s t : Spot} : s.Ahead t ↔ t = s ∨
    ∃ c cs, s.rest = c :: cs ∧ Spot.Ahead ⟨s.index + 1, some c, cs⟩ t := by
  constructor
  · rintro ⟨n, h⟩
    cases n with
    | zero => exact .inl h
    | succ n =>
      obtain ⟨r, ⟨c, cs, hcs, -, rfl⟩, h⟩ := h
      exact .inr ⟨c, cs, hcs, n, h⟩
  · rintro (rfl | ⟨c, cs, hcs, n, h⟩)
    · exact .refl _
    · exact ⟨n + 1, _, ⟨c, cs, hcs, trivial, rfl⟩, h⟩

/-! ## Meanings -/

namespace Core

mutual

/-- **What a meaning reads:** the text between two places. A repetition that asks for fewer times at
most than at least, which no pattern says, is one of just as many as at least. -/
def Reads : Core → Spot → Spot → Prop
  | .nothing, s, t => t = s
  | .literal cs, s, t => ReadsText cs s t
  | .oneOf set, s, t => ReadsOne (set.contains ·) s t
  | .require condition, s, t => condition.holds s.before s.rest.head? = true ∧ t = s
  | .repeated body min max _, s, t =>
    ∃ n, min ≤ n ∧ (∀ m, max = some m → n ≤ m ∨ n = min) ∧ Iterates body.Reads n s t
  | .group _ body, s, t => body.Reads s t
  | .sequence parts, s, t => ReadsAll parts s t
  | .choice branches, s, t => ReadsAny branches s t

/-- One part reads on from where the part in front of it stops. -/
def ReadsAll : List Core → Spot → Spot → Prop
  | [], s, t => t = s
  | part :: rest, s, t => ∃ r, part.Reads s r ∧ ReadsAll rest r t

/-- One of the branches reads the text. -/
def ReadsAny : List Core → Spot → Spot → Prop
  | [], _, _ => False
  | branch :: rest, s, t => branch.Reads s t ∨ ReadsAny rest s t

end

variable {s t : Spot}

/-! ## Sequences -/

theorem readsText_append (cs ds : List Char) (s t : Spot) :
    ReadsText (cs ++ ds) s t ↔ ∃ r, ReadsText cs s r ∧ ReadsText ds r t := by
  induction cs generalizing s with
  | nil =>
    constructor
    · exact fun h => ⟨s, rfl, h⟩
    · rintro ⟨r, rfl, h⟩
      exact h
  | cons c cs ih =>
    constructor
    · rintro ⟨q, hq, h⟩
      obtain ⟨r, hr, h⟩ := (ih q).1 h
      exact ⟨r, ⟨q, hq, hr⟩, h⟩
    · rintro ⟨r, ⟨q, hq, hr⟩, h⟩
      exact ⟨q, hq, (ih q).2 ⟨r, hr, h⟩⟩

theorem readsAll_append (as bs : List Core) (s t : Spot) :
    ReadsAll (as ++ bs) s t ↔ ∃ r, ReadsAll as s r ∧ ReadsAll bs r t := by
  induction as generalizing s with
  | nil =>
    constructor
    · exact fun h => ⟨s, rfl, h⟩
    · rintro ⟨r, rfl, h⟩
      exact h
  | cons a as ih =>
    constructor
    · rintro ⟨q, hq, h⟩
      obtain ⟨r, hr, h⟩ := (ih q).1 h
      exact ⟨r, ⟨q, hq, hr⟩, h⟩
    · rintro ⟨r, ⟨q, hq, hr⟩, h⟩
      exact ⟨q, hq, (ih q).2 ⟨r, hr, h⟩⟩

theorem readsAll_singleton (part : Core) : ReadsAll [part] s t ↔ part.Reads s t := by
  constructor
  · rintro ⟨r, h, rfl⟩
    exact h
  · exact fun h => ⟨t, h, rfl⟩

theorem readsAll_partsOf (part : Core) : ReadsAll (partsOf part) s t ↔ part.Reads s t := by
  cases part with
  | sequence parts => exact Iff.rfl
  | _ => exact readsAll_singleton _

theorem readsAll_flatMap_partsOf (parts : List Core) (s t : Spot) :
    ReadsAll (parts.flatMap partsOf) s t ↔ ReadsAll parts s t := by
  induction parts generalizing s with
  | nil => exact Iff.rfl
  | cons part parts ih =>
    rw [List.flatMap_cons, readsAll_append]
    exact exists_congr fun r => and_congr (readsAll_partsOf part) (ih r)

/-- Joining adjacent texts changes nothing. -/
theorem readsAll_consPart (part : Core) (behind : List Core) :
    ReadsAll (consPart part behind) s t ↔ ReadsAll (part :: behind) s t := by
  fun_cases consPart part behind with
  | case1 =>
    constructor
    · exact fun h => ⟨s, rfl, h⟩
    · rintro ⟨r, rfl, h⟩
      exact h
  | case2 cs ds rest =>
    constructor
    · rintro ⟨r, hr, h⟩
      obtain ⟨q, hq, hr⟩ := (readsText_append cs ds s r).1 hr
      exact ⟨q, hq, r, hr, h⟩
    · rintro ⟨q, hq, r, hr, h⟩
      exact ⟨r, (readsText_append cs ds s r).2 ⟨q, hq, hr⟩, h⟩
  | case3 => exact Iff.rfl

theorem readsAll_foldr_consPart (parts : List Core) (s t : Spot) :
    ReadsAll (parts.foldr consPart []) s t ↔ ReadsAll parts s t := by
  induction parts generalizing s with
  | nil => exact Iff.rfl
  | cons part parts ih =>
    rw [List.foldr_cons, readsAll_consPart]
    exact exists_congr fun r => and_congr Iff.rfl (ih r)

theorem readsAny_append (as bs : List Core) (s t : Spot) :
    ReadsAny (as ++ bs) s t ↔ ReadsAny as s t ∨ ReadsAny bs s t := by
  induction as with
  | nil => exact (false_or _).symm ▸ Iff.rfl
  | cons a as ih => exact (or_congr Iff.rfl ih).trans or_assoc.symm

/-- A sequence reads what its parts read one after the other. -/
theorem reads_ofParts (parts : List Core) : (ofParts parts).Reads s t ↔ ReadsAll parts s t := by
  rw [← readsAll_flatMap_partsOf, ← readsAll_foldr_consPart]
  unfold ofParts
  generalize (parts.flatMap partsOf).foldr consPart [] = joined
  cases joined with
  | nil => exact Iff.rfl
  | cons part rest =>
    cases rest with
    | nil => exact (readsAll_singleton part).symm
    | cons second rest => exact Iff.rfl

end Core

end Pattern

end Switchboard
