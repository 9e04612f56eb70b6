import Mathlib.Data.List.Forall2
import Switchboard.Proofs.Pattern.Escapes
/-!
# Brackets with something behind the pattern

A class in brackets is read alike, whatever is behind the pattern (`readBracket_agrees`). If the
pattern ends within a bracket, what is behind it does not close the bracket either
(`Unclosable`).
-/

namespace Switchboard

namespace Pattern

open Reading

variable {α β γ δ : Type} {closed : Bool} {i j : Input}

/-! ## Readers within a bracket -/

/-- The reading fails, or no closing bracket is left. -/
def Unclosable (y : Except Fault (α × Input)) : Prop := ∀ b j, y = .ok (b, j) → ']' ∉ j.rest

/-- Two readers do the same, or the first one fails and the second one can close no bracket. -/
def AgreesWithin (closed : Bool) (R : α → β → Prop) (x : Except Fault (α × Input))
    (y : Except Fault (β × Input)) : Prop :=
  Agrees closed R x y ∨ (∃ e, x = .error e) ∧ Unclosable y

section AgreesWithin

variable {R : α → β → Prop} {R' : γ → δ → Prop} {x : Reading α} {y : Reading β}
variable {f : α → Reading γ} {g : β → Reading δ}

theorem Advances.unclosable (hy : Advances y) (hj : ']' ∉ j.rest) : Unclosable (y j) :=
  fun b j' h hmem => hj ((hy j b j' h).subset hmem)

theorem unclosable_closing (hy : Advances y) (q : Place) (spaced : Bool) :
    Unclosable (y ⟨closing, q, spaced⟩) :=
  hy.unclosable (by decide : ']' ∉ [')', '\\', 'z'])

/-- Going on keeps this: a reader that cannot close any bracket here cannot do so later either. -/
theorem AgreesWithin.bind (h : AgreesWithin closed R (x i) (y j)) (hg : ∀ b, Advances (g b))
    (hf : ∀ a b i j, R a b → Joined closed i j → AgreesWithin closed R' (f a i) (g b j)) :
    AgreesWithin closed R' ((x >>= f) i) ((y >>= g) j) := by
  change AgreesWithin closed R' (x i >>= fun r => f r.1 r.2) (y j >>= fun r => g r.1 r.2)
  generalize x i = rx at h
  generalize y j = ry at h
  rcases h with h | ⟨⟨e, rfl⟩, hunclosable⟩
  · cases h with
    | joined hvalue hinput => exact hf _ _ _ _ hvalue hinput
    | refused e hlost => exact .inl (.refused e (hlost.bind hg))
  · refine .inr ⟨⟨e, rfl⟩, ?_⟩
    cases ry with
    | error e' => exact fun _ _ h => by cases h
    | ok r => exact (hg r.1).unclosable (hunclosable r.1 r.2 rfl)

/-- What fails where no bracket can be closed, does so behind a reader that cannot close any. -/
theorem AgreesWithin.bind_agrees (h : AgreesWithin closed R (x i) (y j))
    (hg : ∀ b, Advances (g b)) (hfails : ∀ b j, ']' ∉ j.rest → ∃ e, g b j = .error e)
    (hf : ∀ a b i' j', R a b → Joined closed i' j' → x i = .ok (a, i') → y j = .ok (b, j') →
      Agrees closed R' (f a i') (g b j')) :
    Agrees closed R' ((x >>= f) i) ((y >>= g) j) := by
  change Agrees closed R' (x i >>= fun r => f r.1 r.2) (y j >>= fun r => g r.1 r.2)
  generalize x i = rx at h hf
  generalize y j = ry at h hf
  rcases h with h | ⟨⟨e, rfl⟩, hunclosable⟩
  · cases h with
    | joined hvalue hinput => exact hf _ _ _ _ hvalue hinput rfl rfl
    | refused e hlost => exact .refused e (hlost.bind hg)
  · cases ry with
    | error e' => exact agrees_error _ _ _ _
    | ok r =>
      obtain ⟨e', he'⟩ := hfails r.1 r.2 (hunclosable r.1 r.2 rfl)
      change Agrees closed R' (.error e) (g r.1 r.2)
      rw [he']
      exact agrees_error _ _ _ _

theorem AgreesWithin.ite {x' : Reading α} {y' : Reading β} {c c' : Prop} [Decidable c]
    [Decidable c'] (hc : c ↔ c') (hthen : c → AgreesWithin closed R (x i) (y j))
    (helse : ¬c → AgreesWithin closed R (x' i) (y' j)) :
    AgreesWithin closed R ((if c then x else x') i) ((if c' then y else y') j) :=
  relates_ite hc hthen helse

section Ends

variable {refusal : Reading α} {refusal' : Reading β}

/-- A reader that goes on, over the next character and blanks, and fails if nothing is left. -/
theorem AgreesWithin.goOn (h : Joined closed i j) (hne : i.rest ≠ [])
    (hrefusal : ∀ i, ∃ e, refusal i = .error e) (hrefusal' : ∀ j, ∃ e, refusal' j = .error e)
    (hadvances : Advances y)
    (hgo : ∀ c cs p q spaced, AgreesWithin closed R (x ⟨c :: cs, p, spaced⟩)
      (y ⟨c :: (cs ++ Pattern.behind closed), q, spaced⟩)) :
    AgreesWithin closed R
      ((advanceOverBlanks >>= fun more => if (!more) = true then refusal else x) i)
      ((advanceOverBlanks >>= fun more => if (!more) = true then refusal' else y) j) :=
  h.relates_goOn hne hrefusal hrefusal' (fun e e' => .inl (agrees_error closed R e e'))
    (fun _ e q spaced => .inr ⟨⟨e, rfl⟩, unclosable_closing hadvances q spaced⟩) hgo

/-- A reader that fails if nothing is left. -/
theorem AgreesWithin.unlessEnd (h : Joined closed i j)
    (hrefusal : ∀ i, ∃ e, refusal i = .error e) (hrefusal' : ∀ j, ∃ e, refusal' j = .error e)
    (hadvances : Advances y)
    (hgo : ∀ c cs p q spaced, AgreesWithin closed R (x ⟨c :: cs, p, spaced⟩)
      (y ⟨c :: (cs ++ Pattern.behind closed), q, spaced⟩)) :
    AgreesWithin closed R
      ((atEnd >>= fun ends => if ends = true then refusal else x) i)
      ((atEnd >>= fun ends => if ends = true then refusal' else y) j) :=
  h.relates_unlessEnd hrefusal hrefusal' (fun e e' => .inl (agrees_error closed R e e'))
    (fun _ e q spaced => .inr ⟨⟨e, rfl⟩, unclosable_closing hadvances q spaced⟩) hgo

end Ends

end AgreesWithin

/-! ## Items -/

/-- The items differ in spans only. -/
def ClassItem.Same (a b : ClassItem) : Prop := a.unplaced = b.unplaced

/-- The characters differ in spans only. -/
def Literal.Same (a b : Literal) : Prop := a.unplaced = b.unplaced

theorem Literal.Same.char_eq {a b : Literal} (h : a.Same b) : a.char = b.char :=
  (Literal.mk.inj h).2.1

/-- Which parts can be items is a question of their kind, not of their spans. -/
theorem itemOf_agrees {m n : Node} (h : m.Same n) (hij : Joined closed i j) :
    Agrees closed ClassItem.Same (itemOf m i) (itemOf n j) := by
  cases m with
  | literal l =>
    cases n with
    | literal l' => exact .joined (congrArg ClassItem.literal (Node.literal.inj h)) hij
    | _ => cases h
  | property s negated query =>
    cases n with
    | property t negated' query' =>
      cases h
      exact .joined rfl hij
    | _ => cases h
  | shorthand s negated kind =>
    cases n with
    | shorthand t negated' kind' =>
      cases h
      exact .joined rfl hij
    | _ => cases h
  | _ =>
    cases n with
    | literal l => cases h
    | property s negated query => cases h
    | shorthand s negated kind => cases h
    | _ => exact agrees_error _ _ _ _

theorem rangeEndOf_bind_agrees {R : α → β → Prop} {f : Literal → Reading α} {g : Literal → Reading β}
    {m n : Node} (h : m.Same n)
    (hf : ∀ l l', l.Same l' → Agrees closed R (f l i) (g l' j)) :
    Agrees closed R ((rangeEndOf m >>= f) i) ((rangeEndOf n >>= g) j) := by
  cases m with
  | literal l =>
    cases n with
    | literal l' => exact hf l l' (Node.literal.inj h)
    | _ => cases h
  | _ =>
    cases n with
    | literal l => cases h
    | _ => exact agrees_error _ _ _ _

/-- In a bracket, too, a word boundary may be read behind which a brace is left open. -/
theorem readCharacter_agrees (h : Joined closed i j) (hne : i.rest ≠ []) :
    AgreesOrDangles closed (readCharacter i) (readCharacter j) := by
  cases h with
  | inside c cs p q spaced =>
    have hhere : Joined closed ⟨c :: cs, p, spaced⟩ ⟨c :: (cs ++ behind closed), q, spaced⟩ :=
      .inside c cs p q spaced
    rw [readCharacter, run_peek_bind, run_peek_bind, List.head?_cons, List.head?_cons]
    by_cases hc : c = '\\'
    · subst hc
      exact readEscape_agrees hhere hne
    · simp only
      exact .inl (.joined rfl (hhere.next hne))
  | ended p q spaced => exact absurd rfl hne
  | behind hclosed p q spaced => exact absurd rfl hne

/-! ## What is seen over blanks -/

/-- What is left behind blanks, of which one number sign may be one. -/
def overBlanks (cs : List Char) : List Char :=
  let sign := cs.dropWhile Text.isBlank
  if sign.head? = some '#' then sign.tail.dropWhile Text.isBlank else sign

/-- The character that is seen over blanks behind the next one. -/
def Input.ahead (i : Input) : Option Char :=
  if i.spaced then (overBlanks i.rest.tail).head? <|> i.rest.tail.head? else i.rest.tail.head?

theorem run_peekOverBlanks_bind (f : Option Char → Reading β) (i : Input) :
    (peekOverBlanks >>= f) i = f i.ahead i := by
  obtain ⟨rest, p, spaced⟩ := i
  cases spaced <;> rfl

theorem dropWhile_behind (cs : List Char) (closed : Bool) :
    (cs ++ behind closed).dropWhile Text.isBlank =
      cs.dropWhile Text.isBlank ++ behind closed := by
  induction cs with
  | nil =>
    cases closed with
    | false => rfl
    | true => rfl
  | cons c cs ih =>
    rw [List.cons_append, List.dropWhile_cons, List.dropWhile_cons]
    split
    · exact ih
    · rfl

theorem head?_behind_eq_iff {c : Char} (hc : c ≠ ')') (cs : List Char) (closed : Bool) :
    (cs ++ behind closed).head? = some c ↔ cs.head? = some c := by
  cases cs with
  | nil =>
    cases closed with
    | false => exact Iff.rfl
    | true => exact ⟨fun h => absurd (Option.some.inj h).symm hc, fun h => by cases h⟩
  | cons d cs => exact Iff.rfl

theorem overBlanks_behind (cs : List Char) (closed : Bool) :
    overBlanks (cs ++ behind closed) = overBlanks cs ++ behind closed := by
  unfold overBlanks
  rw [dropWhile_behind]
  generalize cs.dropWhile Text.isBlank = sign
  by_cases hsign : sign.head? = some '#'
  · rw [if_pos ((head?_behind_eq_iff (by decide) _ _).2 hsign), if_pos hsign, ← dropWhile_behind]
    cases sign with
    | nil => cases hsign
    | cons c sign => rfl
  · rw [if_neg fun h => hsign ((head?_behind_eq_iff (by decide) _ _).1 h), if_neg hsign]

/-- Where only blanks are left, the first of them is seen. -/
theorem head?_of_overBlanks_nil {cs : List Char} (h : overBlanks cs = []) {c : Char}
    (hc : cs.head? = some c) : Text.isBlank c = true ∨ c = '#' := by
  cases cs with
  | nil => cases hc
  | cons d cs =>
    obtain rfl := Option.some.inj hc
    by_cases hblank : Text.isBlank d = true
    · exact .inl hblank
    · refine .inr ?_
      rw [overBlanks, List.dropWhile_cons_of_neg hblank] at h
      refine Decidable.byContradiction fun hsign => ?_
      rw [List.head?_cons, if_neg fun h => hsign (Option.some.inj h)] at h
      cases h

/-- What is behind the pattern does not look like what is seen. -/
theorem ahead_eq_iff {c d : Char} (hparenthesis : d ≠ ')') (hblank : Text.isBlank d = false)
    (hsign : d ≠ '#') (cs : List Char) (p q : Place) (spaced : Bool) :
    Input.ahead ⟨c :: (cs ++ behind closed), q, spaced⟩ = some d ↔
      Input.ahead ⟨c :: cs, p, spaced⟩ = some d := by
  cases spaced with
  | false => exact head?_behind_eq_iff hparenthesis cs closed
  | true =>
    change ((overBlanks (cs ++ behind closed)).head? <|> (cs ++ behind closed).head?) = some d ↔
      ((overBlanks cs).head? <|> cs.head?) = some d
    rw [overBlanks_behind]
    cases hover : overBlanks cs with
    | cons e rest => exact Iff.rfl
    | nil =>
      have hcs : cs.head? ≠ some d := by
        intro h
        rcases head?_of_overBlanks_nil hover h with h' | h'
        · rw [hblank] at h'
          cases h'
        · exact hsign h'
      cases closed with
      | false => rw [behind, List.append_nil, List.append_nil]
      | true =>
        refine iff_of_false (fun h => ?_) hcs
        exact hparenthesis (Option.some.inj h).symm

/-! ## Items and ranges -/

/-- An item that the pattern ends behind may go on to a range of its own behind it, but not to the
end of the bracket. -/
theorem readItemFrom_agrees (h : Joined closed i j) (s t : Span) {m n : Node} (hmn : m.Same n) :
    AgreesWithin closed ClassItem.Same (readItemFrom s m i) (readItemFrom t n j) := by
  have hrange (span : Span) (last : Node) : Advances (do
      let low ← rangeEndOf n
      let high ← rangeEndOf last
      if high.char < low.char then refuse .classRangeInvalid span
      return ClassItem.range span low high) :=
    (advances_rangeEndOf _).bind fun low =>
      (advances_rangeEndOf _).bind fun high => .ite (advances_refuse_bind _ _ _) (advances_pure _)
  unfold readItemFrom
  rw [run_skipBlanks_bind, run_skipBlanks_bind]
  refine .unlessEnd h.skipBlanks (fun _ => ⟨_, rfl⟩) (fun _ => ⟨_, rfl⟩) ?_ ?_
  · refine advances_peekOverBlanks.bind fun ahead => advances_peek.bind fun c =>
      .ite (advances_itemOf _) ?_
    exact advances_advanceOverBlanks.bind fun more => .ite (advances_refuse_bind _ _ _)
      (advances_readCharacter.bind fun last => hrange _ _)
  intro c cs p q spaced
  have hhere : Joined closed ⟨c :: cs, p, spaced⟩ ⟨c :: (cs ++ behind closed), q, spaced⟩ :=
    .inside c cs p q spaced
  change AgreesWithin closed _ ((peekOverBlanks >>= _) _) ((peekOverBlanks >>= _) _)
  rw [run_peekOverBlanks_bind, run_peek_bind, run_peekOverBlanks_bind, run_peek_bind]
  refine .ite (or_congr Iff.rfl (or_congr ?_ ?_)) (fun _ => .inl (itemOf_agrees hmn hhere))
    fun _ => ?_
  · exact (ahead_eq_iff (by decide) (by decide) (by decide) cs p q spaced).symm
  · exact (ahead_eq_iff (by decide) (by decide) (by decide) cs p q spaced).symm
  refine .goOn hhere (List.cons_ne_nil c cs) (fun _ => ⟨_, rfl⟩) (fun _ => ⟨_, rfl⟩) ?_ ?_
  · exact advances_readCharacter.bind fun last => hrange _ _
  intro c cs p q spaced
  have hhere : Joined closed ⟨c :: cs, p, spaced⟩ ⟨c :: (cs ++ behind closed), q, spaced⟩ :=
    .inside c cs p q spaced
  change AgreesWithin closed _ ((readCharacter >>= _) _) ((readCharacter >>= _) _)
  rcases readCharacter_agrees hhere (List.cons_ne_nil c cs) with hlast | ⟨⟨e, he⟩, _, j', hj', -⟩
  · refine .inl (hlast.bind (fun last => hrange _ _) ?_)
    intro last last' i' j' hsame hj'
    refine rangeEndOf_bind_agrees hmn fun low low' hlow => ?_
    refine rangeEndOf_bind_agrees hsame fun high high' hhigh => ?_
    dsimp only
    rw [hlow.char_eq, hhigh.char_eq]
    refine .ite Iff.rfl (fun _ => agrees_error _ _ _ _) fun _ => .joined ?_ hj'
    change ClassItem.range _ low.unplaced high.unplaced = ClassItem.range _ _ _
    rw [show low.unplaced = low'.unplaced from hlow, show high.unplaced = high'.unplaced from hhigh]
  · -- A place about words is no end of a range.
    rw [run_bind, run_bind, he, hj']
    refine .inl (.refused e ?_)
    cases n with
    | literal l => exact lost_error _ _
    | _ => exact lost_error _ _

/-- A place about words is no item, and no end of a range. -/
theorem lost_readItemFrom_anchor (t span : Span) (kind : Anchor) (j : Input) :
    Lost closed (readItemFrom t (.anchor span kind) j) := by
  unfold readItemFrom
  rw [run_skipBlanks_bind, run_atEnd_bind]
  split
  · exact lost_error _ _
  change Lost closed ((peekOverBlanks >>= _) _)
  rw [run_peekOverBlanks_bind, run_peek_bind]
  split
  · exact lost_error _ _
  rw [run_advanceOverBlanks_bind]
  split
  · exact lost_error _ _
  change Lost closed ((readCharacter >>= _) _)
  rw [run_bind]
  cases readCharacter j.skipBlanks.next.skipBlanks with
  | error e => exact lost_error _ _
  | ok r => exact lost_error _ _

theorem readItem_agrees (h : Joined closed i j) (hne : i.rest ≠ []) (s t : Span) :
    AgreesWithin closed ClassItem.Same (readItem s i) (readItem t j) := by
  rw [readItem_eq, readItem_eq]
  rcases readCharacter_agrees h hne with hfirst | ⟨⟨e, he⟩, span, j', hj', -⟩
  · exact AgreesWithin.bind (.inl hfirst) (advances_readItemFrom t) fun m n i j hmn hij =>
      readItemFrom_agrees hij s t hmn
  · rw [run_bind, run_bind, he, hj']
    exact .inl (.refused e (lost_readItemFrom_anchor _ _ _ _))

/-! ## Classes of ASCII -/

/-- What `readAsciiClass?` does where there is a class of ASCII. -/
def Input.asciiClass? (i : Input) : Option (Bool × AsciiClass × Input) :=
  if ['[', ':'].isPrefixOf i.rest then
    let opened := i.past ['[', ':']
    let signed := opened.past ['^']
    let name := signed.rest.takeWhile (· ≠ ':')
    let named := signed.past name
    if [':', ']'].isPrefixOf named.rest then
      (AsciiClass.named.lookup (String.ofList name)).map fun kind =>
        (['^'].isPrefixOf opened.rest, kind, named.past [':', ']'])
    else none
  else none

/-- The answer for what there is. -/
def asciiAnswer (i : Input) : Option (Bool × AsciiClass × Input) → Option ClassItem × Input
  | some (negated, kind, i') => (some (.ascii ⟨i.place, i'.place⟩ negated kind), i')
  | none => (none, i)

theorem readAsciiClass?_eq (i : Input) : readAsciiClass? i = .ok (asciiAnswer i i.asciiClass?) := by
  unfold readAsciiClass? Input.asciiClass?
  rw [run_get_bind, run_accept_bind]
  by_cases hopens : ['[', ':'].isPrefixOf i.rest = true
  · rw [hopens, if_neg (by decide), if_pos rfl]
    rw [run_accept_bind, run_get_bind, run_accept_bind, run_accept_bind]
    dsimp only
    split
    · cases AsciiClass.named.lookup _ with
      | some kind => rfl
      | none => rfl
    · rfl
  · rw [if_neg hopens, Bool.eq_false_iff.2 hopens, if_pos (by decide), Input.past, if_neg hopens]
    rfl

theorem run_readAsciiClass?_bind (f : Option ClassItem → Reading β) (i : Input) :
    (readAsciiClass? >>= f) i =
      f (asciiAnswer i i.asciiClass?).1 (asciiAnswer i i.asciiClass?).2 := by
  rw [run_bind, readAsciiClass?_eq]
  rfl

/-- A class by its name takes at least its opening bracket. -/
theorem rest_asciiClass? {negated : Bool} {kind : AsciiClass} {i' : Input}
    (h : i.asciiClass? = some (negated, kind, i')) : i'.rest <:+ i.rest.tail := by
  unfold Input.asciiClass? at h
  split at h
  · next hopens =>
    dsimp only at h
    split at h
    · obtain ⟨kind', -, heq⟩ := Option.map_eq_some_iff.1 h
      obtain rfl : _ = i' := (Prod.mk.inj (Prod.mk.inj heq).2).2
      have hopened : (i.past ['[', ':']).rest <:+ i.rest.tail := by
        rw [Input.rest_past hopens, ← List.drop_one]
        exact List.drop_suffix_drop_left _ (by decide)
      exact (((Input.rest_past_suffix _ _).trans (Input.rest_past_suffix _ _)).trans
        (Input.rest_past_suffix _ _)).trans hopened
    · cases h
  · cases h

/-- Without a colon, the name goes on to the end. -/
theorem rest_past_name (h : ':' ∉ i.rest) :
    (i.past (i.rest.takeWhile (· ≠ ':'))).rest = [] := by
  have hall : i.rest.takeWhile (· ≠ ':') = i.rest := by
    rw [← List.append_nil i.rest, List.takeWhile_append_of_pos, List.takeWhile_nil]
    exact fun c hc => decide_eq_true fun heq => h (heq ▸ hc)
  rw [hall, Input.rest_past (List.isPrefixOf_iff_prefix.2 (List.prefix_refl _)), List.drop_length]

theorem takeWhile_behind {rest : List Char} (h : ':' ∈ rest) (closed : Bool) :
    (rest ++ behind closed).takeWhile (· ≠ ':') = rest.takeWhile (· ≠ ':') := by
  induction rest with
  | nil => cases h
  | cons c rest ih =>
    rw [List.cons_append, List.takeWhile_cons, List.takeWhile_cons]
    split
    · next hc =>
      rcases List.mem_cons.1 h with rfl | hmem
      · exact absurd rfl (of_decide_eq_true hc)
      · rw [ih hmem]
    · rfl

theorem Joined.not_mem (h : Joined closed i j) {c : Char} (hc : c ∉ closing) (hi : c ∉ i.rest) :
    c ∉ j.rest := by
  cases h with
  | inside d ds p q spaced =>
    cases closed with
    | false =>
      change c ∉ (d :: ds) ++ []
      rw [List.append_nil]
      exact hi
    | true =>
      intro hmem
      rcases List.mem_append.1 (show c ∈ (d :: ds) ++ closing from hmem) with h | h
      · exact hi h
      · exact hc h
  | ended p q spaced => exact hi
  | behind hclosed p q spaced => exact hc

/-- **A class by its name is there for both readers or for neither.** A name that is cut off by the
end of the pattern is not closed by what is behind it. -/
theorem asciiClass?_joined (h : Joined closed i j) :
    i.asciiClass? = none ∧ j.asciiClass? = none ∨ ∃ negated kind i' j',
      i.asciiClass? = some (negated, kind, i') ∧ j.asciiClass? = some (negated, kind, j') ∧
        Joined closed i' j' := by
  unfold Input.asciiClass?
  rw [h.isPrefixOf_eq (by decide)]
  split
  case isFalse => exact .inl ⟨rfl, rfl⟩
  have hopened : Joined closed (i.past ['[', ':']) (j.past ['[', ':']) := h.past (by decide)
  dsimp only
  rw [hopened.isPrefixOf_eq (by decide)]
  have hsigned : Joined closed ((i.past ['[', ':']).past ['^']) ((j.past ['[', ':']).past ['^']) :=
    hopened.past (by decide)
  generalize (i.past ['[', ':']).past ['^'] = i' at hsigned ⊢
  generalize (j.past ['[', ':']).past ['^'] = j' at hsigned ⊢
  by_cases hcolon : ':' ∈ i'.rest
  · have hname : j'.rest.takeWhile (· ≠ ':') = i'.rest.takeWhile (· ≠ ':') := by
      cases hsigned with
      | inside c cs p q spaced => exact takeWhile_behind hcolon closed
      | ended p q spaced => rfl
      | behind hclosed p q spaced => cases hcolon
    have hbegins : (i'.rest.takeWhile (· ≠ ':')).isPrefixOf i'.rest = true :=
      List.isPrefixOf_iff_prefix.2 (List.takeWhile_prefix _)
    have hbegins' : (i'.rest.takeWhile (· ≠ ':')).isPrefixOf j'.rest = true :=
      hname ▸ List.isPrefixOf_iff_prefix.2 (List.takeWhile_prefix _)
    have hnamed : Joined closed (i'.past (i'.rest.takeWhile (· ≠ ':')))
        (j'.past (i'.rest.takeWhile (· ≠ ':'))) := by
      rw [Input.past, Input.past, if_pos hbegins, if_pos hbegins']
      exact hsigned.foldl_next hbegins
    rw [hname, hnamed.isPrefixOf_eq (by decide)]
    split
    · cases AsciiClass.named.lookup (String.ofList (i'.rest.takeWhile (· ≠ ':'))) with
      | some kind => exact .inr ⟨_, kind, _, _, rfl, rfl, hnamed.past (by decide)⟩
      | none => exact .inl ⟨rfl, rfl⟩
    · exact .inl ⟨rfl, rfl⟩
  · rw [rest_past_name hcolon, rest_past_name (hsigned.not_mem (by decide) hcolon)]
    exact .inl ⟨rfl, rfl⟩

/-! ## Levels -/

/-- The levels differ in spans only. -/
structure ClassLevel.Same (a b : ClassLevel) : Prop where
  negated : a.negated = b.negated
  pending : a.pending.map (fun s => (s.1, s.2.unplaced)) =
    b.pending.map fun s => (s.1, s.2.unplaced)
  items : a.items.map ClassItem.unplaced = b.items.map ClassItem.unplaced

namespace ClassLevel.Same

variable {a b : ClassLevel}

theorem add {item item' : ClassItem} (h : a.Same b) (hitem : item.Same item') :
    (a.add item).Same (b.add item') where
  negated := h.negated
  pending := h.pending
  items := by
    change item.unplaced :: a.items.map _ = item'.unplaced :: b.items.map _
    rw [show item.unplaced = item'.unplaced from hitem, h.items]

theorem group (h : a.Same b) : a.group.Same b.group := by
  have hitems := h.items
  unfold ClassLevel.group ClassItem.Same
  generalize a.items = items at hitems ⊢
  generalize b.items = items' at hitems ⊢
  cases items with
  | nil =>
    obtain rfl := List.map_eq_nil_iff.1 hitems.symm
    rfl
  | cons item rest =>
    cases items' with
    | nil => cases hitems
    | cons item' rest' =>
      cases rest with
      | nil =>
        obtain rfl : rest' = [] := List.map_eq_nil_iff.1 (List.cons.inj hitems).2.symm
        exact (List.cons.inj hitems).1
      | cons second rest =>
        cases rest' with
        | nil => cases (List.cons.inj hitems).2
        | cons second' rest' =>
          change ClassItem.union .none _ = ClassItem.union .none _
          rw [ClassItem.allUnplaced_eq_map, ClassItem.allUnplaced_eq_map, List.map_reverse,
            List.map_reverse, hitems]

/-- The items since a sign that is pending are its right side. -/
theorem whole (h : a.Same b) : a.whole.Same b.whole := by
  have hpending := h.pending
  have hgroup := h.group
  unfold ClassLevel.whole ClassItem.Same
  generalize a.pending = pending at hpending ⊢
  generalize b.pending = pending' at hpending ⊢
  cases pending with
  | none =>
    cases pending' with
    | none => exact hgroup
    | some s => cases hpending
  | some s =>
    cases pending' with
    | none => cases hpending
    | some s' =>
      obtain ⟨operation, left⟩ := s
      obtain ⟨operation', left'⟩ := s'
      obtain ⟨rfl, hleft⟩ := Prod.mk.inj (Option.some.inj hpending)
      change ClassItem.combined .none operation left.unplaced a.group.unplaced =
        ClassItem.combined .none operation left'.unplaced b.group.unplaced
      rw [show left.unplaced = left'.unplaced from hleft,
        show a.group.unplaced = b.group.unplaced from hgroup]

theorem combine (h : a.Same b) (operation : SetOperation) (p q : Place) :
    (a.combine operation p).Same (b.combine operation q) where
  negated := h.negated
  pending := congrArg (fun item => some (operation, item))
    (show a.whole.unplaced = b.whole.unplaced from h.whole)
  items := rfl

/-- A level that ends is an item of the one around it. -/
theorem close (h : a.Same b) (p q : Place) : (a.close p).Same (b.close q) := by
  change ClassItem.bracketed .none a.negated a.whole.unplaced =
    ClassItem.bracketed .none b.negated b.whole.unplaced
  rw [h.negated, show a.whole.unplaced = b.whole.unplaced from h.whole]

end ClassLevel.Same

/-! ## Openings -/

theorem readLeadingSigns_of_other {start : Place} {items : List ClassItem}
    (h : i.rest.head? ≠ some '-') (n : Nat) :
    readLeadingSigns start n items i = .ok (items, i) := by
  cases n with
  | zero => rfl
  | succ n =>
    rw [readLeadingSigns, run_peek_bind, if_neg h]
    rfl

/-- By induction on the fuel, of which both readers have enough for what is left. -/
theorem readLeadingSigns_agrees {n m : Nat} (h : Joined closed i j) (hn : i.rest.length ≤ n)
    (hm : j.rest.length ≤ m) (start start' : Place) {items items' : List ClassItem}
    (hitems : items.map ClassItem.unplaced = items'.map ClassItem.unplaced) :
    AgreesWithin closed (fun a b => a.map ClassItem.unplaced = b.map ClassItem.unplaced)
      (readLeadingSigns start n items i) (readLeadingSigns start' m items' j) := by
  induction n generalizing m i j items items' with
  | zero =>
    have hi : i.rest.head? ≠ some '-' := by
      rw [List.length_eq_zero_iff.1 (Nat.le_zero.1 hn)]
      exact fun h => by cases h
    rw [readLeadingSigns_of_other hi,
      readLeadingSigns_of_other fun h' => hi ((h.head?_eq_iff (by decide)).1 h')]
    exact .inl (.joined hitems h)
  | succ n ih =>
    by_cases hsign : i.rest.head? = some '-'
    · have hne : i.rest ≠ [] := by
        intro hnil
        rw [hnil] at hsign
        cases hsign
      have hi := Input.length_nextOverBlanks_lt hne
      have hj := Input.length_nextOverBlanks_lt (h.rest_ne_nil hne)
      have hnext := (h.next hne).skipBlanks
      obtain ⟨m, rfl⟩ : ∃ k, m = k + 1 := Nat.exists_eq_succ_of_ne_zero (by omega)
      rw [readLeadingSigns, run_peek_bind, if_pos hsign, readLeadingSigns, run_peek_bind,
        if_pos ((h.head?_eq_iff (by decide)).2 hsign)]
      rw [run_nextSpan_bind, run_advanceOverBlanks_bind, run_nextSpan_bind,
        run_advanceOverBlanks_bind]
      generalize i.next.skipBlanks = i' at hnext hi ⊢
      generalize j.next.skipBlanks = j' at hnext hj ⊢
      cases hnext with
      | inside c cs p q spaced =>
        refine ih (.inside c cs p q spaced) (by omega) (by omega) ?_
        rw [List.map_cons, List.map_cons, hitems]
        rfl
      | ended p q spaced => exact .inl (agrees_error _ _ _ _)
      | behind hclosed p q spaced =>
        exact .inr ⟨⟨_, rfl⟩, unclosable_closing (advances_readLeadingSigns _ _ _) q spaced⟩
    · rw [readLeadingSigns_of_other hsign,
        readLeadingSigns_of_other fun h' => hsign ((h.head?_eq_iff (by decide)).1 h')]
      exact .inl (.joined hitems h)

theorem openBracketFrom_agrees (h : Joined closed i j) (start start' : Place) (negated : Bool) :
    AgreesWithin closed ClassLevel.Same (openBracketFrom start negated i)
      (openBracketFrom start' negated j) := by
  unfold openBracketFrom
  rw [run_here_bind, run_get_bind, run_here_bind, run_get_bind]
  refine (readLeadingSigns_agrees h (Nat.le_refl _) (Nat.le_refl _) start start' rfl).bind ?_ ?_
  · intro signs
    refine advances_peek.bind fun c => .ite ?_ ((advances_spanFrom _).bind fun _ => advances_pure _)
    exact advances_nextSpan.bind fun _ => advances_advanceOverBlanks.bind fun more =>
      .ite (advances_unclosed _ _) ((advances_spanFrom _).bind fun _ => advances_pure _)
  · intro signs signs' i j hsigns hij
    rw [run_peek_bind, run_peek_bind]
    refine .ite ?_ (fun hcond => ?_) fun _ => ?_
    · have hempty : signs.isEmpty = signs'.isEmpty := by
        cases signs with
        | nil => rw [List.map_eq_nil_iff.1 hsigns.symm]
        | cons sign signs =>
          cases signs' with
          | nil => cases hsigns
          | cons sign' signs' => rfl
      rw [hempty, Bool.and_eq_true, Bool.and_eq_true, decide_eq_true_iff, decide_eq_true_iff,
        hij.head?_eq_iff (by decide)]
    · have hne : i.rest ≠ [] := by
        intro hnil
        rw [hnil] at hcond
        simp at hcond
      rw [run_nextSpan_bind, run_nextSpan_bind]
      refine .goOn hij hne (fun _ => ⟨_, rfl⟩) (fun _ => ⟨_, rfl⟩) ?_ ?_
      · exact (advances_spanFrom _).bind fun _ => advances_pure _
      · exact fun c cs p q spaced => .inl (.joined ⟨rfl, rfl, rfl⟩ (.inside c cs p q spaced))
    · exact .inl (.joined ⟨rfl, rfl, hsigns⟩ hij)

/-- **A bracket is opened alike,** negated or not. -/
theorem openBracket_agrees (h : Joined closed i j) (hne : i.rest ≠ []) :
    AgreesWithin closed ClassLevel.Same (openBracket i) (openBracket j) := by
  rw [openBracket_eq]
  rw [run_here_bind, run_here_bind]
  have hfrom (start : Place) : Advances (do
      if (← peek) = some '^' then
        if !(← advanceOverBlanks) then refuse .classUnclosed (← spanFrom start)
        openBracketFrom start true
      else openBracketFrom start false) :=
    advances_peek.bind fun c =>
      .ite (advances_advanceOverBlanks.bind fun more =>
        .ite (advances_unclosed _ _) (advances_openBracketFrom _ _)) (advances_openBracketFrom _ _)
  refine .goOn h hne (fun _ => ⟨_, rfl⟩) (fun _ => ⟨_, rfl⟩) (hfrom _) ?_
  intro c cs p q spaced
  have hhere : Joined closed ⟨c :: cs, p, spaced⟩ ⟨c :: (cs ++ behind closed), q, spaced⟩ :=
    .inside c cs p q spaced
  change AgreesWithin closed _ ((peek >>= _) _) ((peek >>= _) _)
  rw [run_peek_bind, run_peek_bind]
  refine .ite Iff.rfl (fun _ => ?_) fun _ => openBracketFrom_agrees hhere _ _ _
  refine .goOn hhere (List.cons_ne_nil c cs) (fun _ => ⟨_, rfl⟩) (fun _ => ⟨_, rfl⟩)
    (advances_openBracketFrom _ _) ?_
  exact fun c cs p q spaced => openBracketFrom_agrees (.inside c cs p q spaced) _ _ _

/-! ## Piece by piece -/

/-- The sign for an operation that is next, with what it asks for. -/
def Input.setOperation? (i : Input) : Option (List Char × SetOperation) :=
  if ['&', '&'].isPrefixOf i.rest then some (['&', '&'], .intersection)
  else if ['-', '-'].isPrefixOf i.rest then some (['-', '-'], .difference)
  else if ['~', '~'].isPrefixOf i.rest then some (['~', '~'], .symmetricDifference)
  else none

theorem run_setOperation?_bind (f : Option (List Char × SetOperation) → Reading β) (i : Input) :
    (setOperation? >>= f) i = f i.setOperation? i := by
  obtain ⟨rest, p, spaced⟩ := i
  have hrun : setOperation? ⟨rest, p, spaced⟩ =
      .ok (Input.setOperation? ⟨rest, p, spaced⟩, ⟨rest, p, spaced⟩) := by
    unfold setOperation? Input.setOperation?
    rw [run_peek_bind, run_peekSecond_bind]
    cases rest with
    | nil => rfl
    | cons c cs =>
      cases cs with
      | nil => simp
      | cons d cs =>
        by_cases hand : c = '&' ∧ d = '&'
        · obtain ⟨rfl, rfl⟩ := hand
          rfl
        by_cases hminus : c = '-' ∧ d = '-'
        · obtain ⟨rfl, rfl⟩ := hminus
          rfl
        by_cases htilde : c = '~' ∧ d = '~'
        · obtain ⟨rfl, rfl⟩ := htilde
          rfl
        have hnone (e : Char) (he : ¬(c = e ∧ d = e)) :
            ¬[e, e].isPrefixOf (c :: d :: cs) = true := by
          rw [List.isPrefixOf_iff_prefix]
          rintro ⟨rest, hrest⟩
          obtain ⟨rfl, rfl, -⟩ := List.cons_eq_cons.1 hrest |>.imp_right List.cons_eq_cons.1
          exact he ⟨rfl, rfl⟩
        rw [if_neg (hnone _ hand), if_neg (hnone _ hminus), if_neg (hnone _ htilde)]
        rw [not_and] at hand hminus htilde
        simp_all
  rw [run_bind, hrun]
  rfl

theorem Joined.setOperation?_eq (h : Joined closed i j) : j.setOperation? = i.setOperation? := by
  unfold Input.setOperation?
  rw [h.isPrefixOf_eq (by decide), h.isPrefixOf_eq (by decide), h.isPrefixOf_eq (by decide)]

/-- Reads the piece of a bracket that starts with a character, or with the sign for an operation. -/
def readBracketPiece (fuel : Nat) (level : ClassLevel) (outer : List ClassLevel) (c : Char)
    (sign : Option (List Char × SetOperation)) : Reading Node :=
  if c = '[' then do
    match ← readAsciiClass? with
    | some item => readBracketFrom fuel (level.add item) outer
    | none => readBracketFrom fuel (← openBracket) (level :: outer)
  else if c = ']' then do
    let _ ← advance
    let stop ← here
    match outer with
    | [] => return .bracketed ⟨level.opening.start, stop⟩ level.negated level.whole
    | parent :: rest => readBracketFrom fuel (parent.add (level.close stop)) rest
  else do
    match sign with
    | some (sign, operation) =>
      let _ ← accept sign
      readBracketFrom fuel (level.combine operation (← here)) outer
    | none =>
      let item ← readItem level.opening
      readBracketFrom fuel (level.add item) outer

theorem readBracketFrom_of_end {fuel : Nat} {level : ClassLevel} {outer : List ClassLevel}
    (h : i.skipBlanks.rest = []) :
    readBracketFrom fuel level outer i = .error ⟨.classUnclosed, level.opening, none⟩ := by
  cases fuel with
  | zero => rfl
  | succ fuel =>
    rw [readBracketFrom, run_skipBlanks_bind, run_peek_bind, run_setOperation?_bind, h]
    rfl

/-- A step of the loop, with the piece that it reads by itself. -/
theorem readBracketFrom_of_char {fuel : Nat} {level : ClassLevel} {outer : List ClassLevel}
    {c : Char} {cs : List Char} (h : i.skipBlanks.rest = c :: cs) :
    readBracketFrom (fuel + 1) level outer i =
      readBracketPiece fuel level outer c i.skipBlanks.setOperation? i.skipBlanks := by
  rw [readBracketFrom, run_skipBlanks_bind, run_peek_bind, run_setOperation?_bind, h,
    List.head?_cons]
  unfold readBracketPiece
  by_cases hopens : c = '['
  · subst hopens
    rfl
  by_cases hcloses : c = ']'
  · subst hcloses
    rfl
  rw [if_neg hopens, if_neg hcloses]
  cases i.skipBlanks.setOperation? with
  | some sign => simp only
  | none => simp only

/-! ## Reading on -/

/-- The reading fails where there is no closing bracket. -/
def FailsUnclosed (x : Reading α) : Prop := ∀ i, ']' ∉ i.rest → ∃ e, x i = .error e

theorem Advances.bind_failsUnclosed {x : Reading α} {f : α → Reading β} (hx : Advances x)
    (hf : ∀ a, FailsUnclosed (f a)) : FailsUnclosed (x >>= f) := by
  intro i hi
  rw [run_bind]
  cases hr : x i with
  | error e => exact ⟨e, rfl⟩
  | ok r => exact hf r.1 r.2 fun hmem => hi ((hx i r.1 r.2 hr).subset hmem)

theorem failsUnclosed_readBracketPiece {fuel : Nat} {c : Char} (hc : c ≠ ']')
    (hfuel : ∀ level outer, FailsUnclosed (readBracketFrom fuel level outer)) (level : ClassLevel)
    (outer : List ClassLevel) (sign : Option (List Char × SetOperation)) :
    FailsUnclosed (readBracketPiece fuel level outer c sign) := by
  unfold readBracketPiece
  split
  · refine advances_readAsciiClass?.bind_failsUnclosed fun item => ?_
    cases item with
    | some item => exact hfuel _ _
    | none => exact consumes_openBracket.advances.bind_failsUnclosed fun _ => hfuel _ _
  cases sign with
  | some sign =>
    exact (advances_accept _).bind_failsUnclosed fun _ =>
      advances_here.bind_failsUnclosed fun _ => hfuel _ _
  | none => exact (consumes_readItem _).advances.bind_failsUnclosed fun _ => hfuel _ _

/-- A bracket that is open stays open, by induction on the fuel. -/
theorem failsUnclosed_readBracketFrom (fuel : Nat) (level : ClassLevel) (outer : List ClassLevel) :
    FailsUnclosed (readBracketFrom fuel level outer) := by
  induction fuel generalizing level outer with
  | zero => exact fun _ _ => ⟨_, rfl⟩
  | succ fuel ih =>
    intro i hi
    cases hrest : i.skipBlanks.rest with
    | nil => exact ⟨_, readBracketFrom_of_end hrest⟩
    | cons c cs =>
      have hblanks : ']' ∉ i.skipBlanks.rest := fun hmem => hi (i.rest_skipBlanks_suffix.subset hmem)
      have hc : c ≠ ']' := by
        rintro rfl
        exact hblanks (hrest ▸ List.mem_cons_self)
      rw [readBracketFrom_of_char hrest]
      exact failsUnclosed_readBracketPiece hc ih _ _ _ _ hblanks

/-- The sign for an operation has two characters, of which none closes a group. -/
theorem setOperation?_spec {sign : List Char} {operation : SetOperation}
    (h : i.setOperation? = some (sign, operation)) :
    sign.isPrefixOf i.rest = true ∧ sign.length = 2 ∧ ')' ∉ sign := by
  unfold Input.setOperation? at h
  split at h
  · cases h
    exact ⟨‹_›, rfl, by decide⟩
  split at h
  · cases h
    exact ⟨‹_›, rfl, by decide⟩
  split at h
  · cases h
    exact ⟨‹_›, rfl, by decide⟩
  · cases h

/-- How the two readers go on, with what is read of the bracket so far. -/
def BracketsAgree (closed : Bool) (n m : Nat) : Prop :=
  ∀ i j level level' outer outer', Joined closed i j → i.rest.length < n → j.rest.length < m →
    ClassLevel.Same level level' → List.Forall₂ ClassLevel.Same outer outer' →
    Agrees closed Node.Same (readBracketFrom n level outer i) (readBracketFrom m level' outer' j)

section Pieces

variable {n m : Nat} {level level' : ClassLevel} {outer outer' : List ClassLevel}

/-- **One piece of a bracket,** if what comes after it is read alike with less left. -/
theorem readBracketPiece_agrees (hfuel : BracketsAgree closed n m) (h : Joined closed i j) {c : Char}
    {cs : List Char} (hc : i.rest = c :: cs) (hn : i.rest.length ≤ n) (hm : j.rest.length ≤ m)
    (hlevel : level.Same level') (houter : List.Forall₂ ClassLevel.Same outer outer') :
    Agrees closed Node.Same (readBracketPiece n level outer c i.setOperation? i)
      (readBracketPiece m level' outer' c j.setOperation? j) := by
  have hne : i.rest ≠ [] := hc ▸ List.cons_ne_nil c cs
  have hne' := h.rest_ne_nil hne
  unfold readBracketPiece
  refine .ite Iff.rfl (fun _ => ?_) fun _ => .ite Iff.rfl (fun _ => ?_) fun _ => ?_
  · rw [run_readAsciiClass?_bind, run_readAsciiClass?_bind]
    rcases asciiClass?_joined h with ⟨hi, hj⟩ | ⟨negated, kind, i', j', hi, hj, hij⟩
    · rw [hi, hj]
      dsimp only [asciiAnswer]
      refine (openBracket_agrees h hne).bind_agrees (fun _ => advances_readBracketFrom _ _ _)
        (fun _ => failsUnclosed_readBracketFrom _ _ _) fun a b i' j' hab hij hi' hj' => ?_
      have hi' := consumes_openBracket.length_lt hi' hne
      have hj' := consumes_openBracket.length_lt hj' hne'
      exact hfuel _ _ _ _ _ _ hij (by omega) (by omega) hab (.cons hlevel houter)
    · rw [hi, hj]
      dsimp only [asciiAnswer]
      have hi' := (rest_asciiClass? hi).length_le
      have hj' := (rest_asciiClass? hj).length_le
      rw [List.length_tail] at hi' hj'
      have hpos := List.length_pos_iff.2 hne
      have hpos' := List.length_pos_iff.2 hne'
      exact hfuel _ _ _ _ _ _ hij (by omega) (by omega) (hlevel.add rfl) houter
  · have hi' := Input.length_next_lt hne
    have hj' := Input.length_next_lt hne'
    rw [run_advance_bind, run_here_bind, run_advance_bind, run_here_bind]
    cases houter with
    | nil =>
      refine .joined ?_ (h.next hne)
      change Node.bracketed .none level.negated level.whole.unplaced =
        Node.bracketed .none level'.negated level'.whole.unplaced
      rw [hlevel.negated, show level.whole.unplaced = level'.whole.unplaced from hlevel.whole]
    | cons hparent hrest =>
      exact hfuel _ _ _ _ _ _ (h.next hne) (by omega) (by omega)
        (hparent.add (hlevel.close _ _)) hrest
  · rw [h.setOperation?_eq]
    cases hsign : i.setOperation? with
    | some sign =>
      obtain ⟨sign, operation⟩ := sign
      obtain ⟨hbegins, hlength, hclosing⟩ := setOperation?_spec hsign
      dsimp only
      rw [run_accept_bind, run_here_bind, run_accept_bind, run_here_bind]
      have hi' := Input.rest_past hbegins
      have hj' := Input.rest_past (h.isPrefixOf_eq hclosing ▸ hbegins)
      have hpos := List.length_pos_iff.2 hne
      have hpos' := List.length_pos_iff.2 hne'
      refine hfuel _ _ _ _ _ _ (h.past hclosing) ?_ ?_ (hlevel.combine _ _ _) houter
      · rw [hi', List.length_drop]
        omega
      · rw [hj', List.length_drop]
        omega
    | none =>
      refine (readItem_agrees h hne _ _).bind_agrees (fun _ => advances_readBracketFrom _ _ _)
        (fun _ => failsUnclosed_readBracketFrom _ _ _) fun a b i' j' hab hij hi' hj' => ?_
      have hi' := (consumes_readItem _).length_lt hi' hne
      have hj' := (consumes_readItem _).length_lt hj' hne'
      exact hfuel _ _ _ _ _ _ hij (by omega) (by omega) (hlevel.add hab) houter

end Pieces

/-- By induction on the first reader's fuel; the other one has some of its own, since it may have
more to read. -/
theorem readBracketFrom_agrees (n m : Nat) : BracketsAgree closed n m := by
  induction n generalizing m with
  | zero => exact fun i j level level' outer outer' h hn => absurd hn (Nat.not_lt_zero _)
  | succ n ih =>
    intro i j level level' outer outer' h hn hm hlevel houter
    obtain ⟨m, rfl⟩ : ∃ k, m = k + 1 := Nat.exists_eq_succ_of_ne_zero (by omega)
    have hblanks := h.skipBlanks
    have hi := i.rest_skipBlanks_suffix.length_le
    have hj := j.rest_skipBlanks_suffix.length_le
    cases hrest : i.skipBlanks.rest with
    | cons c cs =>
      rw [readBracketFrom_of_char hrest, readBracketFrom_of_char (hblanks.rest_cons hrest)]
      exact readBracketPiece_agrees (ih m) hblanks hrest (by omega) (by omega) hlevel houter
    | nil =>
      -- What is behind the pattern closes no bracket.
      obtain ⟨e, he⟩ : ∃ e, readBracketFrom (m + 1) level' outer' j = .error e := by
        rcases hblanks.rest_nil hrest with hnil | ⟨-, hclosing⟩
        · exact ⟨_, readBracketFrom_of_end hnil⟩
        · rw [readBracketFrom_of_char hclosing]
          exact failsUnclosed_readBracketPiece (by decide) (failsUnclosed_readBracketFrom m) _ _ _
            _ (hclosing ▸ (by decide : ']' ∉ [')', '\\', 'z']))
      rw [readBracketFrom_of_end hrest, he]
      exact agrees_error _ _ _ _

/-- **A class in brackets is read alike,** whatever is behind the pattern. -/
theorem readBracket_agrees (h : Joined closed i j) (hne : i.rest ≠ []) :
    Agrees closed Node.Same (readBracket i) (readBracket j) := by
  unfold readBracket
  rw [run_get_bind, run_get_bind]
  refine (openBracket_agrees h hne).bind_agrees (fun _ => advances_readBracketFrom _ _ _)
    (fun _ => failsUnclosed_readBracketFrom _ _ _) fun a b i' j' hab hij hi' hj' => ?_
  have hi' := consumes_openBracket.length_lt hi' hne
  have hj' := consumes_openBracket.length_lt hj' (h.rest_ne_nil hne)
  exact readBracketFrom_agrees _ _ _ _ _ _ _ _ hij hi' hj' hab .nil

end Pattern

end Switchboard
