import Switchboard.Pattern.Input
/-!
# Reading a pattern with something behind it

The same reader is run on a pattern, and on the pattern with a closing parenthesis and more behind
it, and at another place (`Joined`). As long as it does not read that parenthesis, it does the same
(`Agrees`). If it has read the parenthesis, this cannot be made up for: readers only go forward
(`Advances`), and there is no other parenthesis (`Lost`).

A note in a spaced pattern goes on to the end of its line. So where the pattern ends in a note, all
that is behind it is a part of the note, and both readers are at their end (`Joined.ended`).
-/

namespace Switchboard

namespace Pattern

variable {α β γ δ : Type} {closed : Bool}

/-! ## Steps of a reader -/

namespace Reading

variable (i : Input)

/-- A reader and what follows it, from one input to the next. -/
theorem run_bind (x : Reading α) (f : α → Reading β) :
    (x >>= f) i = x i >>= fun r => f r.1 r.2 := rfl

/-- What is found is handed on with the input that is left, -/
theorem run_bind_ok {i' : Input} {x : Reading α} {a : α} (h : x i = .ok (a, i'))
    (f : α → Reading β) : (x >>= f) i = f a i' := by
  rw [run_bind, h]
  rfl

/-- and a fault ends the reading. -/
theorem run_bind_error {x : Reading α} {e : Fault} (h : x i = .error e) (f : α → Reading β) :
    (x >>= f) i = .error e := by
  rw [run_bind, h]
  rfl

/-- A result that does not depend on the input leaves it as it is. -/
theorem run_lift_bind (r : Except Fault α) (f : α → Reading β) :
    ((liftM r : Reading α) >>= f) i = r >>= fun a => f a i := by
  cases r <;> rfl

theorem run_lift_ok_bind (a : α) (f : α → Reading β) :
    ((liftM (.ok a : Except Fault α) : Reading α) >>= f) i = f a i := rfl

/-- What a reader and what follows it have found. -/
theorem ok_of_bind_ok {i i' : Input} {x : Reading α} {f : α → Reading β} {b : β}
    (h : (x >>= f) i = .ok (b, i')) : ∃ a i₁, x i = .ok (a, i₁) ∧ f a i₁ = .ok (b, i') := by
  rw [run_bind] at h
  cases hx : x i with
  | error e =>
    rw [hx] at h
    cases h
  | ok r =>
    rw [hx] at h
    exact ⟨r.1, r.2, rfl, h⟩

/-- What the small readers come to: each hands on what it has looked up, and leaves the input as it
is unless it steps over something. -/
@[simp] theorem run_pure (a : α) : (pure a : Reading α) i = .ok (a, i) := rfl

@[simp] theorem run_get_bind (f : Input → Reading β) : (get >>= f) i = f i i := rfl

@[simp] theorem run_peek_bind (f : Option Char → Reading β) :
    (peek >>= f) i = f i.rest.head? i := rfl

@[simp] theorem run_peekSecond_bind (f : Option Char → Reading β) :
    (peekSecond >>= f) i = f i.rest[1]? i := rfl

@[simp] theorem run_here_bind (f : Place → Reading β) : (here >>= f) i = f i.place i := rfl

@[simp] theorem run_nextSpan_bind (f : Span → Reading β) :
    (nextSpan >>= f) i = f ⟨i.place, i.next.place⟩ i := rfl

@[simp] theorem run_spanFrom_bind (start : Place) (f : Span → Reading β) :
    (spanFrom start >>= f) i = f ⟨start, i.place⟩ i := rfl

@[simp] theorem run_pointHere_bind (f : Span → Reading β) :
    (pointHere >>= f) i = f (.point i.place) i := rfl

@[simp] theorem run_atEnd_bind (f : Bool → Reading β) :
    (atEnd >>= f) i = f i.rest.isEmpty i := rfl

@[simp] theorem run_advance_bind (f : Bool → Reading β) :
    (advance >>= f) i = f (!i.next.rest.isEmpty) i.next := rfl

@[simp] theorem run_skipBlanks_bind (f : PUnit → Reading β) :
    (skipBlanks >>= f) i = f ⟨⟩ i.skipBlanks := rfl

@[simp] theorem run_advanceOverBlanks_bind (f : Bool → Reading β) :
    (advanceOverBlanks >>= f) i = f (!i.next.skipBlanks.rest.isEmpty) i.next.skipBlanks := rfl

end Reading

/-! ## Readers go forward -/

/-- What is left of the input ends the input that there was. -/
def Advances (x : Reading α) : Prop := ∀ i a i', x i = .ok (a, i') → i'.rest <:+ i.rest

section Advances

variable {x : Reading α} {f : α → Reading β}

theorem advances_pure (a : α) : Advances (pure a : Reading α) := by
  intro i a' i' h
  cases h
  exact List.suffix_rfl

/-- What fails leaves nothing, so there is nothing to be shown of it. -/
theorem advances_throw (e : Fault) : Advances (throw e : Reading α) := fun _ _ _ h => by cases h

theorem advances_refuse (cause : Cause) (span : Span) :
    Advances (Reading.refuse cause span : Reading α) := advances_throw _

/-- Neither does a result from elsewhere read anything. -/
theorem advances_lift (r : Except Fault α) : Advances (liftM r : Reading α) := by
  intro i a i' h
  cases r with
  | error e => cases h
  | ok b =>
    cases h
    exact List.suffix_rfl

/-- **Going forward goes through sequencing,** since ends of an end are ends. -/
theorem Advances.bind (hx : Advances x) (hf : ∀ a, Advances (f a)) : Advances (x >>= f) := by
  intro i b i' h
  obtain ⟨a, i₁, ha, hb⟩ := Reading.ok_of_bind_ok h
  exact (hf a i₁ b i' hb).trans (hx i a i₁ ha)

/-- It goes through tests, too. -/
theorem Advances.ite {y : Reading α} {c : Prop} [Decidable c] (hx : Advances x)
    (hy : Advances y) : Advances (if c then x else y) := by
  split
  · exact hx
  · exact hy

/-- Nothing is read behind a refusal, so what stands there does not matter. -/
theorem advances_refuse_bind (cause : Cause) (span : Span) (f : α → Reading β) :
    Advances (Reading.refuse cause span >>= f) := fun _ _ _ h => by cases h

theorem advances_get : Advances (get : Reading Input) := by
  intro i a i' h
  cases h
  exact List.suffix_rfl

/-- A change of the input goes forward if it leaves an end of it. -/
theorem advances_modify {g : Input → Input} (hg : ∀ i, (g i).rest <:+ i.rest) :
    Advances (modify g : Reading PUnit) := by
  intro i a i' h
  cases h
  exact hg i

/-- One character less is an end, -/
theorem Input.rest_next_suffix (i : Input) : i.next.rest <:+ i.rest := by
  obtain ⟨rest, p, spaced⟩ := i
  cases rest with
  | nil => exact List.suffix_rfl
  | cons c cs => exact List.suffix_cons _ _

/-- and so is what is behind blanks and notes. The cases are those of the skipping: within a note or
not, and what is next. -/
theorem Input.afterBlanks_suffix (inNote : Bool) (cs : List Char) (p : Place) :
    (afterBlanks inNote cs p).1 <:+ cs := by
  fun_induction afterBlanks inNote cs p with
  | case1 => exact List.suffix_rfl
  | case2 c cs p ih => exact ih.trans (List.suffix_cons _ _)
  | case3 _ c cs p _ _ ih => exact ih.trans (List.suffix_cons _ _)
  | case4 _ cs p _ _ ih => exact ih.trans (List.suffix_cons _ _)
  | case5 => exact List.suffix_rfl

/-- In a pattern that is not spaced, there is nothing to skip. -/
theorem Input.rest_skipBlanks_suffix (i : Input) : i.skipBlanks.rest <:+ i.rest := by
  rw [skipBlanks]
  split
  · exact afterBlanks_suffix _ _ _
  · exact List.suffix_rfl

/-- At least the next character is read. -/
def Consumes (x : Reading α) : Prop := ∀ i a i', x i = .ok (a, i') → i'.rest <:+ i.rest.tail

/-- The next character is gone, if there was one. -/
theorem Input.rest_next (i : Input) : i.next.rest = i.rest.tail := by
  obtain ⟨rest, p, spaced⟩ := i
  cases rest <;> rfl

/-- Whether blanks matter does not change by reading. -/
theorem Input.spaced_next (i : Input) : i.next.spaced = i.spaced := by
  obtain ⟨rest, p, spaced⟩ := i
  cases rest <;> rfl

theorem consumes_refuse (cause : Cause) (span : Span) :
    Consumes (Reading.refuse cause span : Reading α) := fun _ _ _ h => by cases h

namespace Consumes

/-- What consumes a character goes forward. -/
theorem advances (hx : Consumes x) : Advances x :=
  fun i a i' h => (hx i a i' h).trans (List.tail_suffix i.rest)

theorem bind (hx : Consumes x) (hf : ∀ a, Advances (f a)) : Consumes (x >>= f) := by
  intro i b i' h
  obtain ⟨a, i₁, ha, hb⟩ := Reading.ok_of_bind_ok h
  exact (hf a i₁ b i' hb).trans (hx i a i₁ ha)

theorem refuse_bind (cause : Cause) (span : Span) (f : α → Reading β) :
    Consumes (Reading.refuse cause span >>= f) := fun _ _ _ h => by cases h

theorem ite {y : Reading α} {c : Prop} [Decidable c] (hx : Consumes x) (hy : Consumes y) :
    Consumes (if c then x else y) := by
  split
  · exact hx
  · exact hy

end Consumes

/-- So what is left gets shorter, unless it was empty. This is what reading by pieces ends by. -/
theorem Consumes.length_lt {i i' : Input} {a : α} (hx : Consumes x) (h : x i = .ok (a, i'))
    (hne : i.rest ≠ []) : i'.rest.length < i.rest.length := by
  have hle := (hx i a i' h).length_le
  rw [List.length_tail] at hle
  have hpos := List.length_pos_iff.2 hne
  omega

/-- Without their first characters, an end of a list is an end of it still. -/
theorem suffix_tail {cs ds : List Char} (h : cs <:+ ds) : cs.tail <:+ ds.tail := by
  obtain ⟨front, rfl⟩ := h
  cases front with
  | nil => exact List.suffix_rfl
  | cons c front => exact (List.tail_suffix cs).trans (List.suffix_append front cs)

/-- It does not matter whether the first or the second reader consumes the character. -/
theorem Advances.bind_consumes (hx : Advances x) (hf : ∀ a, Consumes (f a)) :
    Consumes (x >>= f) := by
  intro i b i' h
  obtain ⟨a, i₁, ha, hb⟩ := Reading.ok_of_bind_ok h
  exact (hf a i₁ b i' hb).trans (suffix_tail (hx i a i₁ ha))

/-- Within what was left at some moment, to which the reading can go back. -/
def AdvancesWithin (before : Input) (x : Reading α) : Prop :=
  ∀ i a i', i.rest <:+ before.rest → x i = .ok (a, i') → i'.rest <:+ before.rest

namespace AdvancesWithin

variable {before : Input}

/-- Going back to that moment is allowed, -/
theorem set (before : Input) : AdvancesWithin before (set before : Reading PUnit) := by
  intro i a i' hi h
  cases h
  exact List.suffix_rfl

theorem bind (hx : AdvancesWithin before x) (hf : ∀ a, AdvancesWithin before (f a)) :
    AdvancesWithin before (x >>= f) := by
  intro i b i' hi h
  obtain ⟨a, i₁, ha, hb⟩ := Reading.ok_of_bind_ok h
  exact hf a i₁ b i' (hx i a i₁ hi ha) hb

theorem ite {y : Reading α} {c : Prop} [Decidable c] (hx : AdvancesWithin before x)
    (hy : AdvancesWithin before y) : AdvancesWithin before (if c then x else y) := by
  split
  · exact hx
  · exact hy

end AdvancesWithin

/-- and whatever goes forward stays within. -/
theorem Advances.within (hx : Advances x) (before : Input) : AdvancesWithin before x :=
  fun i a i' hi h => (hx i a i' h).trans hi

/-- **A reader that may go back to where it began** goes forward all the same. -/
theorem advances_of_within {x : Input → Reading α} (h : ∀ before, AdvancesWithin before (x before)) :
    Advances (get >>= x) := fun i a i' hr => h i i a i' List.suffix_rfl hr

/-- A step makes what is left shorter, -/
theorem Input.length_next_lt {i : Input} (h : i.rest ≠ []) :
    i.next.rest.length < i.rest.length := by
  obtain ⟨rest, p, spaced⟩ := i
  cases rest with
  | nil => exact absurd rfl h
  | cons c cs => exact Nat.lt_succ_self _

/-- with the blanks behind it or without. -/
theorem Input.length_nextOverBlanks_lt {i : Input} (h : i.rest ≠ []) :
    i.next.skipBlanks.rest.length < i.rest.length :=
  Nat.lt_of_le_of_lt i.next.rest_skipBlanks_suffix.length_le (length_next_lt h)

namespace Reading

/-- The readers that only look go forward by standing still. -/
theorem advances_peek : Advances peek := advances_get.bind fun _ => advances_pure _

theorem advances_peekSecond : Advances peekSecond := advances_get.bind fun _ => advances_pure _

theorem advances_peekOverBlanks : Advances peekOverBlanks :=
  advances_get.bind fun _ => .ite (advances_pure _) (advances_pure _)

theorem advances_here : Advances here := advances_get.bind fun _ => advances_pure _

theorem advances_nextSpan : Advances nextSpan := advances_get.bind fun _ => advances_pure _

theorem advances_spanFrom (start : Place) : Advances (spanFrom start) :=
  advances_here.bind fun _ => advances_pure _

theorem advances_pointHere : Advances pointHere := advances_here.bind fun _ => advances_pure _

theorem advances_atEnd : Advances atEnd := advances_get.bind fun _ => advances_pure _

/-- A step consumes what it steps over, -/
theorem consumes_advance : Consumes advance := by
  intro i a i' h
  cases h
  exact i.rest_next ▸ List.suffix_rfl

theorem advances_advance : Advances advance := consumes_advance.advances

theorem advances_skipBlanks : Advances skipBlanks := advances_modify Input.rest_skipBlanks_suffix

/-- and so it does with the blanks behind it. -/
theorem consumes_advanceOverBlanks : Consumes advanceOverBlanks := by
  intro i a i' h
  cases h
  rw [← i.rest_next]
  exact i.next.rest_skipBlanks_suffix

theorem advances_advanceOverBlanks : Advances advanceOverBlanks :=
  consumes_advanceOverBlanks.advances

theorem rest_foldl_next_suffix (word : List Char) (i : Input) :
    (word.foldl (fun i _ => i.next) i).rest <:+ i.rest := by
  induction word generalizing i with
  | nil => exact List.suffix_rfl
  | cons c word ih => exact (ih i.next).trans i.rest_next_suffix

/-- A word is stepped over if it is there, and otherwise nothing is. -/
theorem advances_accept (word : List Char) : Advances (accept word) :=
  advances_get.bind fun _ =>
    .ite ((advances_modify (rest_foldl_next_suffix word)).bind fun _ => advances_pure _)
      (advances_pure _)

end Reading

end Advances

/-! ## What is behind the pattern -/

/-- What is written behind a pattern so that it matches up to the end of a text. -/
def closing : List Char := [')', '\\', 'z']

/-- What is behind the pattern, if anything is. -/
def behind : Bool → List Char
  | true => closing
  | false => []

/-- The second input is the first one with what is behind the pattern, at any place. -/
inductive Joined (closed : Bool) : Input → Input → Prop where
  | inside (c : Char) (cs : List Char) (p q : Place) (spaced : Bool) :
      Joined closed ⟨c :: cs, p, spaced⟩ ⟨c :: (cs ++ behind closed), q, spaced⟩
  /-- All has been read, and what is behind the pattern as well if there is anything. -/
  | ended (p q : Place) (spaced : Bool) : Joined closed ⟨[], p, spaced⟩ ⟨[], q, spaced⟩
  /-- What is behind the pattern is next. -/
  | behind (hclosed : closed = true) (p q : Place) (spaced : Bool) :
      Joined closed ⟨[], p, spaced⟩ ⟨closing, q, spaced⟩

namespace Joined

variable {i j : Input}

/-- Whatever is left of the pattern, the two inputs are joined. -/
theorem of_rest (closed : Bool) (rest : List Char) (p q : Place) (spaced : Bool) :
    Joined closed ⟨rest, p, spaced⟩ ⟨rest ++ Pattern.behind closed, q, spaced⟩ := by
  cases rest with
  | nil =>
    cases closed with
    | false => exact ended p q spaced
    | true => exact behind rfl p q spaced
  | cons c cs => exact inside c cs p q spaced

/-- Blanks matter in both or in neither. -/
theorem spaced_eq (h : Joined closed i j) : j.spaced = i.spaced := by cases h <;> rfl

/-- If the pattern goes on, both inputs do, -/
theorem rest_ne_nil (h : Joined closed i j) (hne : i.rest ≠ []) : j.rest ≠ [] := by
  cases h with
  | inside c cs p q spaced => exact List.cons_ne_nil _ _
  | ended p q spaced => exact absurd rfl hne
  | behind hclosed p q spaced => exact absurd rfl hne

/-- and with the same character; -/
theorem rest_cons (h : Joined closed i j) {c : Char} {cs : List Char} (hrest : i.rest = c :: cs) :
    j.rest = c :: (cs ++ Pattern.behind closed) := by
  cases h with
  | inside d ds p q spaced =>
    obtain ⟨rfl, rfl⟩ := List.cons.inj hrest
    rfl
  | ended p q spaced => cases hrest
  | behind hclosed p q spaced => cases hrest

/-- if not, the second one has come to its end, too, or to the closing parenthesis. -/
theorem rest_nil (h : Joined closed i j) (hrest : i.rest = []) :
    j.rest = [] ∨ closed = true ∧ j.rest = closing := by
  cases h with
  | inside c cs p q spaced => cases hrest
  | ended p q spaced => exact .inl rfl
  | behind hclosed p q spaced => exact .inr ⟨hclosed, rfl⟩

/-- What the closing parenthesis is not, is next in both inputs or in neither. -/
theorem any_head? (h : Joined closed i j) {kind : Char → Bool} (hkind : kind ')' = false) :
    j.rest.head?.any kind = i.rest.head?.any kind := by
  cases h with
  | inside c cs p q spaced => rfl
  | ended p q spaced => rfl
  | behind hclosed p q spaced => exact hkind

/-- In particular, any other character is next in both or in neither. -/
theorem head?_eq_iff (h : Joined closed i j) {c : Char} (hc : c ≠ ')') :
    j.rest.head? = some c ↔ i.rest.head? = some c := by
  cases h with
  | inside d ds p q spaced => exact Iff.rfl
  | ended p q spaced => exact Iff.rfl
  | behind hclosed p q spaced =>
    exact ⟨fun h => absurd (Option.some.inj h).symm hc, fun h => by cases h⟩

/-- A step within the pattern is the same step in both, -/
theorem next (h : Joined closed i j) (hne : i.rest ≠ []) : Joined closed i.next j.next := by
  cases h with
  | inside c cs p q spaced => exact of_rest closed cs _ _ spaced
  | ended p q spaced => exact absurd rfl hne
  | behind hclosed p q spaced => exact absurd rfl hne

/-- A note that is not over takes in all that is behind the pattern. -/
theorem afterBlanks (closed inNote : Bool) (rest : List Char) (p q : Place) :
    Joined closed
      ⟨(Input.afterBlanks inNote rest p).1, (Input.afterBlanks inNote rest p).2, true⟩
      ⟨(Input.afterBlanks inNote (rest ++ Pattern.behind closed) q).1,
        (Input.afterBlanks inNote (rest ++ Pattern.behind closed) q).2, true⟩ := by
  induction rest generalizing inNote p q with
  | nil =>
    cases closed with
    | false => exact ended _ _ _
    | true =>
      cases inNote with
      | false => exact behind rfl _ _ _
      | true => exact ended _ _ _
  | cons c cs ih =>
    rw [List.cons_append, Input.afterBlanks, Input.afterBlanks]
    split
    · exact ih _ _ _
    split
    · exact ih _ _ _
    split
    · exact ih _ _ _
    · exact inside c cs p q true

/-- and so is skipping blanks and notes. -/
theorem skipBlanks (h : Joined closed i j) : Joined closed i.skipBlanks j.skipBlanks := by
  have hrest (rest : List Char) (p q : Place) (spaced : Bool) :
      Joined closed (Input.skipBlanks ⟨rest, p, spaced⟩)
        (Input.skipBlanks ⟨rest ++ Pattern.behind closed, q, spaced⟩) := by
    cases spaced with
    | false => exact of_rest closed rest p q false
    | true => exact afterBlanks closed false rest p q
  cases h with
  | inside c cs p q spaced => exact hrest (c :: cs) p q spaced
  | ended p q spaced =>
    cases spaced with
    | false => exact ended p q false
    | true => exact ended p q true
  | behind hclosed p q spaced =>
    subst hclosed
    exact hrest [] p q spaced

end Joined

/-! ## Readers that have read too far -/

/-- The reading fails, or it has read over the last closing parenthesis. -/
def Lost (closed : Bool) (y : Except Fault (α × Input)) : Prop :=
  ∀ b j, y = .ok (b, j) → closed = true ∧ ')' ∉ j.rest

/-- What fails counts as lost. -/
theorem lost_error (closed : Bool) (e : Fault) : Lost closed (.error e : Except Fault (α × Input)) :=
  fun _ _ h => by cases h

section Lost

variable {y : Reading α} {g : α → Reading β} {j : Input}

/-- **Who has read over the last parenthesis is lost,** for there is no way back to it. -/
theorem Advances.lost (hy : Advances y) (hj : ')' ∉ j.rest) : Lost true (y j) := by
  intro b j' h
  exact ⟨rfl, fun hmem => hj ((hy j b j' h).subset hmem)⟩

/-- And lost one stays, whatever follows. -/
theorem Lost.bind {ry : Except Fault (α × Input)} (h : Lost closed ry)
    (hg : ∀ b, Advances (g b)) : Lost closed (ry >>= fun r => g r.1 r.2) := by
  cases ry with
  | error e => exact lost_error closed e
  | ok r =>
    obtain ⟨rfl, hj⟩ := h r.1 r.2 rfl
    exact (hg r.1).lost hj

/-- The parenthesis is the first character of what is behind the pattern, and there is no second
one. -/
theorem not_mem_next_closing (q : Place) (spaced : Bool) :
    ')' ∉ (Input.next ⟨closing, q, spaced⟩).rest := by
  change ')' ∉ ['\\', 'z']
  decide

/-- So whoever steps over it is lost, -/
theorem lost_advance {g : Bool → Reading β} (hg : ∀ b, Advances (g b)) (q : Place)
    (spaced : Bool) : Lost true ((Reading.advance >>= g) ⟨closing, q, spaced⟩) :=
  (hg _).lost (not_mem_next_closing q spaced)

/-- with the blanks behind it or without. -/
theorem lost_advanceOverBlanks {g : Bool → Reading β} (hg : ∀ b, Advances (g b)) (q : Place)
    (spaced : Bool) : Lost true ((Reading.advanceOverBlanks >>= g) ⟨closing, q, spaced⟩) :=
  (hg _).lost fun hmem => not_mem_next_closing q spaced
    ((Input.next ⟨closing, q, spaced⟩).rest_skipBlanks_suffix.subset hmem)

end Lost

/-! ## Two readers -/

section Relations

/-! What two readers come to is related in several ways below. These steps are the same for all. -/

variable {S : Except Fault (α × Input) → Except Fault (β × Input) → Prop}
variable {x : Reading α} {y : Reading β} {i j : Input}

/-- Two tests with the same outcome. -/
theorem relates_ite {x' : Reading α} {y' : Reading β} {c c' : Prop} [Decidable c] [Decidable c']
    (hc : c ↔ c') (hthen : c → S (x i) (y j)) (helse : ¬c → S (x' i) (y' j)) :
    S ((if c then x else x') i) ((if c' then y else y') j) := by
  by_cases h : c
  · rw [if_pos h, if_pos (hc.1 h)]
    exact hthen h
  · rw [if_neg h, if_neg fun h' => h (hc.2 h')]
    exact helse h

/-- Where something has to be left and is not, the first reader fails. -/
theorem Joined.relates (h : Joined closed i j) (hx : i.rest = [] → ∃ e, x i = .error e)
    (hy : j.rest = [] → ∃ e, y j = .error e) (hended : ∀ e e', S (.error e) (.error e'))
    (hbehind : closed = true → ∀ e q spaced, S (.error e) (y ⟨closing, q, spaced⟩))
    (hgo : ∀ c cs p q spaced, S (x ⟨c :: cs, p, spaced⟩)
      (y ⟨c :: (cs ++ Pattern.behind closed), q, spaced⟩)) : S (x i) (y j) := by
  cases h with
  | inside c cs p q spaced => exact hgo c cs p q spaced
  | ended p q spaced =>
    obtain ⟨e, he⟩ := hx rfl
    obtain ⟨e', he'⟩ := hy rfl
    rw [he, he']
    exact hended e e'
  | behind hclosed p q spaced =>
    obtain ⟨e, he⟩ := hx rfl
    rw [he]
    exact hbehind hclosed e q spaced

section Ends

variable {refusal : Reading α} {refusal' : Reading β}

theorem Reading.fails_of_ended {c : Prop} [Decidable c] (hc : c)
    (hrefusal : ∀ i, ∃ e, refusal i = .error e) (i : Input) :
    ∃ e, (if c then refusal else x) i = .error e := by
  rw [if_pos hc]
  exact hrefusal i

/-- A reader that goes on, over the next character and blanks, and fails if nothing is left. -/
theorem Joined.relates_goOn (h : Joined closed i j) (hne : i.rest ≠ [])
    (hrefusal : ∀ i, ∃ e, refusal i = .error e) (hrefusal' : ∀ j, ∃ e, refusal' j = .error e)
    (hended : ∀ e e', S (.error e) (.error e'))
    (hbehind : closed = true → ∀ e q spaced, S (.error e) (y ⟨closing, q, spaced⟩))
    (hgo : ∀ c cs p q spaced, S (x ⟨c :: cs, p, spaced⟩)
      (y ⟨c :: (cs ++ Pattern.behind closed), q, spaced⟩)) :
    S ((Reading.advanceOverBlanks >>= fun more => if (!more) = true then refusal else x) i)
      ((Reading.advanceOverBlanks >>= fun more => if (!more) = true then refusal' else y) j) :=
  (h.next hne).skipBlanks.relates
    (x := fun i => (if (!!i.rest.isEmpty) = true then refusal else x) i)
    (y := fun j => (if (!!j.rest.isEmpty) = true then refusal' else y) j)
    (fun hi => Reading.fails_of_ended (by rw [hi]; rfl) hrefusal _)
    (fun hj => Reading.fails_of_ended (by rw [hj]; rfl) hrefusal' _) hended hbehind hgo

/-- A reader that fails if nothing is left. -/
theorem Joined.relates_unlessEnd (h : Joined closed i j)
    (hrefusal : ∀ i, ∃ e, refusal i = .error e) (hrefusal' : ∀ j, ∃ e, refusal' j = .error e)
    (hended : ∀ e e', S (.error e) (.error e'))
    (hbehind : closed = true → ∀ e q spaced, S (.error e) (y ⟨closing, q, spaced⟩))
    (hgo : ∀ c cs p q spaced, S (x ⟨c :: cs, p, spaced⟩)
      (y ⟨c :: (cs ++ Pattern.behind closed), q, spaced⟩)) :
    S ((Reading.atEnd >>= fun ends => if ends = true then refusal else x) i)
      ((Reading.atEnd >>= fun ends => if ends = true then refusal' else y) j) :=
  h.relates (x := fun i => (if i.rest.isEmpty = true then refusal else x) i)
    (y := fun j => (if j.rest.isEmpty = true then refusal' else y) j)
    (fun hi => Reading.fails_of_ended (by rw [hi]; rfl) hrefusal _)
    (fun hj => Reading.fails_of_ended (by rw [hj]; rfl) hrefusal' _) hended hbehind hgo

end Ends

end Relations

/-- Two readers do the same: what they find is related, and so are the inputs then. If the first
one fails, the second one fails or is lost. -/
inductive Agrees (closed : Bool) (R : α → β → Prop) :
    Except Fault (α × Input) → Except Fault (β × Input) → Prop where
  | joined {a : α} {b : β} {i j : Input} (hvalue : R a b) (hinput : Joined closed i j) :
      Agrees closed R (.ok (a, i)) (.ok (b, j))
  | refused {y : Except Fault (β × Input)} (e : Fault) (hlost : Lost closed y) :
      Agrees closed R (.error e) y

/-- Two readers do the same, or the second one is lost where the first one has come to its end. -/
inductive AgreesSoFar (closed : Bool) (R : α → β → Prop) :
    Except Fault (α × Input) → Except Fault (β × Input) → Prop where
  | agrees {x : Except Fault (α × Input)} {y : Except Fault (β × Input)}
      (h : Agrees closed R x y) : AgreesSoFar closed R x y
  | ended {a : α} {i : Input} {y : Except Fault (β × Input)} (hend : i.rest = [])
      (hlost : Lost closed y) : AgreesSoFar closed R (.ok (a, i)) y

section Agrees

variable {R : α → β → Prop} {R' : γ → δ → Prop} {x : Reading α} {y : Reading β}
variable {f : α → Reading γ} {g : β → Reading δ} {i j : Input}

/-- Two failures agree, whatever their faults. -/
theorem agrees_error (closed : Bool) (R : α → β → Prop) (e e' : Fault) :
    Agrees closed R (.error e) (.error e') :=
  .refused e (lost_error closed e')

/-- **Agreement goes through sequencing.** What follows may go by what the first readers came to; if
the second one is lost there, it stays lost, since what follows goes forward. -/
theorem Agrees.bind_of_run (h : Agrees closed R (x i) (y j)) (hg : ∀ b, Advances (g b))
    (hf : ∀ a b i' j', x i = .ok (a, i') → y j = .ok (b, j') → R a b → Joined closed i' j' →
      Agrees closed R' (f a i') (g b j')) :
    Agrees closed R' ((x >>= f) i) ((y >>= g) j) := by
  change Agrees closed R' (x i >>= fun r => f r.1 r.2) (y j >>= fun r => g r.1 r.2)
  generalize x i = rx at h hf
  generalize y j = ry at h hf
  cases h with
  | joined hvalue hinput => exact hf _ _ _ _ rfl rfl hvalue hinput
  | refused e hlost => exact .refused e (hlost.bind hg)

/-- Mostly what they found is all that matters. -/
theorem Agrees.bind (h : Agrees closed R (x i) (y j)) (hg : ∀ b, Advances (g b))
    (hf : ∀ a b i j, R a b → Joined closed i j → Agrees closed R' (f a i) (g b j)) :
    Agrees closed R' ((x >>= f) i) ((y >>= g) j) :=
  h.bind_of_run hg fun _ _ _ _ _ _ => hf _ _ _ _

/-- What cannot go on at the end fails where the second reader is lost. -/
theorem AgreesSoFar.bind_agrees (h : AgreesSoFar closed R (x i) (y j))
    (hend : ∀ a i, i.rest = [] → ∃ e, f a i = .error e) (hg : ∀ b, Advances (g b))
    (hf : ∀ a b i j, R a b → Joined closed i j → Agrees closed R' (f a i) (g b j)) :
    Agrees closed R' ((x >>= f) i) ((y >>= g) j) := by
  change Agrees closed R' (x i >>= fun r => f r.1 r.2) (y j >>= fun r => g r.1 r.2)
  generalize x i = rx at h
  generalize y j = ry at h
  cases h with
  | agrees h =>
    cases h with
    | joined hvalue hinput => exact hf _ _ _ _ hvalue hinput
    | refused e hlost => exact .refused e (hlost.bind hg)
  | ended hi hlost =>
    rename_i a i'
    obtain ⟨e, he⟩ := hend a i' hi
    change Agrees closed R' (f a i') _
    rw [he]
    exact .refused e (hlost.bind hg)

/-- Readers that agree have agreed so far. -/
theorem AgreesSoFar.joined {a : α} {b : β} (hvalue : R a b) (hinput : Joined closed i j) :
    AgreesSoFar closed R (.ok (a, i)) (.ok (b, j)) :=
  .agrees (.joined hvalue hinput)

theorem Agrees.ite {x' : Reading α} {y' : Reading β} {c c' : Prop} [Decidable c] [Decidable c']
    (hc : c ↔ c') (hthen : c → Agrees closed R (x i) (y j))
    (helse : ¬c → Agrees closed R (x' i) (y' j)) :
    Agrees closed R ((if c then x else x') i) ((if c' then y else y') j) :=
  relates_ite hc hthen helse

theorem AgreesSoFar.ite {x' : Reading α} {y' : Reading β} {c c' : Prop} [Decidable c]
    [Decidable c'] (hc : c ↔ c') (hthen : c → AgreesSoFar closed R (x i) (y j))
    (helse : ¬c → AgreesSoFar closed R (x' i) (y' j)) :
    AgreesSoFar closed R ((if c then x else x') i) ((if c' then y else y') j) :=
  relates_ite hc hthen helse

section Ends

variable {refusal : Reading α} {refusal' : Reading β}

/-- **A reader that goes on,** over the next character and blanks, and fails if nothing is left. -/
theorem Agrees.goOn (h : Joined closed i j) (hne : i.rest ≠ [])
    (hrefusal : ∀ i, ∃ e, refusal i = .error e) (hrefusal' : ∀ j, ∃ e, refusal' j = .error e)
    (hlost : ∀ q spaced, Lost true (y ⟨closing, q, spaced⟩))
    (hgo : ∀ c cs p q spaced, Agrees closed R (x ⟨c :: cs, p, spaced⟩)
      (y ⟨c :: (cs ++ Pattern.behind closed), q, spaced⟩)) :
    Agrees closed R
      ((Reading.advanceOverBlanks >>= fun more => if (!more) = true then refusal else x) i)
      ((Reading.advanceOverBlanks >>= fun more => if (!more) = true then refusal' else y) j) :=
  h.relates_goOn hne hrefusal hrefusal' (agrees_error closed R)
    (fun hclosed e q spaced => .refused e (hclosed ▸ hlost q spaced)) hgo

/-- A reader that fails if nothing is left. -/
theorem Agrees.unlessEnd (h : Joined closed i j)
    (hrefusal : ∀ i, ∃ e, refusal i = .error e) (hrefusal' : ∀ j, ∃ e, refusal' j = .error e)
    (hlost : ∀ q spaced, Lost true (y ⟨closing, q, spaced⟩))
    (hgo : ∀ c cs p q spaced, Agrees closed R (x ⟨c :: cs, p, spaced⟩)
      (y ⟨c :: (cs ++ Pattern.behind closed), q, spaced⟩)) :
    Agrees closed R
      ((Reading.atEnd >>= fun ends => if ends = true then refusal else x) i)
      ((Reading.atEnd >>= fun ends => if ends = true then refusal' else y) j) :=
  h.relates_unlessEnd hrefusal hrefusal' (agrees_error closed R)
    (fun hclosed e q spaced => .refused e (hclosed ▸ hlost q spaced)) hgo

end Ends

/-! ## Words -/

section Words

variable {word : List Char}

/-- The input behind a word, if that is next. -/
def Input.past (word : List Char) (i : Input) : Input :=
  if word.isPrefixOf i.rest then word.foldl (fun i _ => i.next) i else i

@[simp] theorem Reading.run_accept_bind (word : List Char) (f : Bool → Reading α) (i : Input) :
    (Reading.accept word >>= f) i = f (word.isPrefixOf i.rest) (i.past word) := by
  unfold accept Input.past
  rw [bind_assoc, run_get_bind]
  cases word.isPrefixOf i.rest <;> rfl

/-- Behind a word that is there, as many characters less are left. -/
theorem Input.rest_past {word : List Char} {i : Input} (h : word.isPrefixOf i.rest = true) :
    (i.past word).rest = i.rest.drop word.length := by
  rw [past, if_pos h]
  induction word generalizing i with
  | nil => rfl
  | cons c word ih =>
    cases hrest : i.rest with
    | nil =>
      rw [hrest] at h
      cases h
    | cons d rest =>
      rw [hrest, List.isPrefixOf_cons_cons, Bool.and_eq_true] at h
      have hnext : i.next.rest = rest := by rw [i.rest_next, hrest, List.tail_cons]
      rw [List.foldl_cons, ih (hnext ▸ h.2), hnext, List.length_cons, List.drop_succ_cons]

theorem Input.rest_past_suffix (word : List Char) (i : Input) :
    (i.past word).rest <:+ i.rest := by
  rw [past]
  split
  · exact Reading.rest_foldl_next_suffix word i
  · exact List.suffix_rfl

/-- A word without closing parentheses is not to be found across the end of the pattern. -/
theorem isPrefixOf_behind (hword : ')' ∉ word) (rest : List Char) (closed : Bool) :
    word.isPrefixOf (rest ++ Pattern.behind closed) = word.isPrefixOf rest := by
  induction word generalizing rest with
  | nil =>
    rw [List.isPrefixOf_nil_left, List.isPrefixOf_nil_left]
  | cons c word ih =>
    rw [List.mem_cons, not_or] at hword
    cases rest with
    | cons d rest =>
      rw [List.cons_append, List.isPrefixOf_cons_cons, List.isPrefixOf_cons_cons, ih hword.2]
    | nil =>
      cases closed with
      | false => rfl
      | true =>
        change (c == ')' && _) = false
        rw [beq_false_of_ne (Ne.symm hword.1), Bool.false_and]

/-- So it is there in both inputs or in neither, -/
theorem Joined.isPrefixOf_eq (h : Joined closed i j) (hword : ')' ∉ word) :
    word.isPrefixOf j.rest = word.isPrefixOf i.rest := by
  cases h with
  | inside c cs p q spaced => exact isPrefixOf_behind hword (c :: cs) closed
  | ended p q spaced => rfl
  | behind hclosed p q spaced =>
    subst hclosed
    exact isPrefixOf_behind hword [] true

theorem Joined.foldl_next (h : Joined closed i j) (hbegins : word.isPrefixOf i.rest = true) :
    Joined closed (word.foldl (fun i _ => i.next) i) (word.foldl (fun i _ => i.next) j) := by
  induction word generalizing i j with
  | nil => exact h
  | cons c word ih =>
    cases hrest : i.rest with
    | nil =>
      rw [hrest] at hbegins
      cases hbegins
    | cons d rest =>
      rw [hrest, List.isPrefixOf_cons_cons, Bool.and_eq_true] at hbegins
      refine ih (h.next (hrest ▸ List.cons_ne_nil d rest)) ?_
      rw [i.rest_next, hrest]
      exact hbegins.2

/-- and both are joined behind it. -/
theorem Joined.past (h : Joined closed i j) (hword : ')' ∉ word) :
    Joined closed (i.past word) (j.past word) := by
  rw [Input.past, Input.past, h.isPrefixOf_eq hword]
  split
  · next hbegins => exact h.foldl_next hbegins
  · exact h

/-- A word is there in both inputs or in neither. -/
theorem accept_bind_agrees {f : Bool → Reading α} {g : Bool → Reading β} (h : Joined closed i j)
    (hword : ')' ∉ word) (hf : ∀ b i j, Joined closed i j → Agrees closed R (f b i) (g b j)) :
    Agrees closed R ((Reading.accept word >>= f) i) ((Reading.accept word >>= g) j) := by
  rw [Reading.run_accept_bind, Reading.run_accept_bind, h.isPrefixOf_eq hword]
  exact hf _ _ _ (h.past hword)

end Words

end Agrees

/-! ## Characters of a kind -/

/-- A reader of the characters of a kind that are next, which does not mind blanks between them. -/
structure ReadsWhile (kind : Char → Bool) (read : Nat → List Char → Reading (List Char)) :
    Prop where
  stop (n : Nat) (chars : List Char) (i : Input) (h : i.rest.head?.any kind = false) :
    read n chars i = .ok (chars.reverse, i)
  char (n : Nat) (chars : List Char) (i : Input) (c : Char) (h : i.rest.head? = some c)
    (hc : kind c = true) : read (n + 1) chars i = read n (c :: chars) i.next.skipBlanks

/-- It stops at the end of the pattern, for the closing parenthesis is not of the kind. -/
theorem ReadsWhile.joined {kind : Char → Bool} {read : Nat → List Char → Reading (List Char)}
    (hread : ReadsWhile kind read) (hkind : kind ')' = false) {i j : Input} {n m : Nat}
    (h : Joined closed i j) (hn : i.rest.length ≤ n) (hm : j.rest.length ≤ m)
    (chars : List Char) :
    ∃ found i' j', read n chars i = .ok (found, i') ∧ read m chars j = .ok (found, j') ∧
      Joined closed i' j' := by
  induction n generalizing m i j chars with
  | zero =>
    have hi : i.rest.head?.any kind = false := by
      rw [List.length_eq_zero_iff.1 (Nat.le_zero.1 hn)]
      rfl
    exact ⟨_, _, _, hread.stop _ _ _ hi, hread.stop _ _ _ ((h.any_head? hkind).trans hi), h⟩
  | succ n ih =>
    cases hany : i.rest.head?.any kind with
    | false =>
      exact ⟨_, _, _, hread.stop _ _ _ hany, hread.stop _ _ _ ((h.any_head? hkind).trans hany), h⟩
    | true =>
      have hne : i.rest ≠ [] := by
        intro hnil
        rw [hnil] at hany
        cases hany
      have hi := Input.length_nextOverBlanks_lt hne
      have hj := Input.length_nextOverBlanks_lt (h.rest_ne_nil hne)
      obtain ⟨m, rfl⟩ : ∃ k, m = k + 1 := Nat.exists_eq_succ_of_ne_zero (by omega)
      obtain ⟨c, hc⟩ : ∃ c, i.rest.head? = some c := ⟨_, List.head?_eq_some_head hne⟩
      rw [hc, Option.any_some] at hany
      have hclosing : c ≠ ')' := by
        rintro rfl
        rw [hkind] at hany
        cases hany
      rw [hread.char _ _ _ _ hc hany, hread.char _ _ _ _ ((h.head?_eq_iff hclosing).2 hc) hany]
      exact ih (h.next hne).skipBlanks (by omega) (by omega) _

end Pattern

end Switchboard
