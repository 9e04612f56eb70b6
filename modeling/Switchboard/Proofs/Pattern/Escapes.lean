import Switchboard.Proofs.Pattern.Advance
import Switchboard.Proofs.Pattern.Spans
/-!
# Escapes with something behind the pattern

An escape is read alike, whatever is behind the pattern (`readEscape_agrees`), with one exception:
behind a word boundary that the pattern ends in an open brace after, a closing parenthesis makes the
brace the beginning of a repetition.
-/

namespace Switchboard

namespace Pattern

open Reading

variable {closed : Bool} {i j : Input}

/-- The parts differ in spans only. -/
def Node.Same (m n : Node) : Prop := m.unplaced = n.unplaced

/-! ## Characters by number -/

/-- A digit is read without a step, -/
theorem hexDigit_of_digit {value d : Nat} (h : i.rest.head?.bind Text.hexValue? = some d) :
    hexDigit value i = .ok (value * 16 + d, i) := by
  rw [hexDigit, run_peek_bind, h]
  rfl

theorem hexDigit_of_none {value : Nat} (h : i.rest.head?.bind Text.hexValue? = none) :
    hexDigit value i = .error ⟨.escapeHexInvalidDigit, ⟨i.place, i.next.place⟩, none⟩ := by
  rw [hexDigit, run_peek_bind, h]
  rfl

/-- so that reading goes on from where it was. -/
theorem hexDigit_bind_agrees {α β : Type} {R : α → β → Prop} {f : Nat → Reading α}
    {g : Nat → Reading β} {c : Char} {cs ds : List Char} {p q : Place} {spaced : Bool} {value : Nat}
    (h : ∀ value, Agrees closed R (f value ⟨c :: cs, p, spaced⟩) (g value ⟨c :: ds, q, spaced⟩)) :
    Agrees closed R ((hexDigit value >>= f) ⟨c :: cs, p, spaced⟩)
      ((hexDigit value >>= g) ⟨c :: ds, q, spaced⟩) := by
  rw [run_bind, run_bind]
  cases hd : Text.hexValue? c with
  | some d =>
    rw [hexDigit_of_digit (i := ⟨c :: cs, p, spaced⟩) hd,
      hexDigit_of_digit (i := ⟨c :: ds, q, spaced⟩) hd]
    exact h _
  | none =>
    rw [hexDigit_of_none (i := ⟨c :: cs, p, spaced⟩) hd,
      hexDigit_of_none (i := ⟨c :: ds, q, spaced⟩) hd]
    exact agrees_error _ _ _ _

theorem hexDigits_bind_agrees {α β : Type} {R : α → β → Prop} {f : Nat → Reading α}
    {g : Nat → Reading β} (n value : Nat) (c : Char) (cs : List Char) (p q : Place) (spaced : Bool)
    (h : ∀ value c cs p q spaced, Agrees closed R (f value ⟨c :: cs, p, spaced⟩)
      (g value ⟨c :: (cs ++ behind closed), q, spaced⟩)) :
    Agrees closed R ((hexDigits n value >>= f) ⟨c :: cs, p, spaced⟩)
      ((hexDigits n value >>= g) ⟨c :: (cs ++ behind closed), q, spaced⟩) := by
  induction n generalizing value c cs p q spaced with
  | zero => exact h value c cs p q spaced
  | succ n ih =>
    have hjoined : Joined closed ⟨c :: cs, p, spaced⟩ ⟨c :: (cs ++ behind closed), q, spaced⟩ :=
      .inside c cs p q spaced
    have hnext := (hjoined.next (List.cons_ne_nil c cs)).skipBlanks
    rw [hexDigits, bind_assoc, bind_assoc, run_advanceOverBlanks_bind, run_advanceOverBlanks_bind]
    generalize Input.skipBlanks _ = i at hnext ⊢
    generalize Input.skipBlanks _ = j at hnext ⊢
    cases hnext with
    | inside c cs p q spaced =>
      change Agrees closed R (((hexDigit value >>= hexDigits n) >>= f) _)
        (((hexDigit value >>= hexDigits n) >>= g) _)
      rw [bind_assoc, bind_assoc]
      exact hexDigit_bind_agrees fun value => ih value c cs p q spaced
    | ended p q spaced => exact agrees_error _ _ _ _
    | behind hclosed p q spaced => exact agrees_error _ _ _ _

theorem hexDigitsInBraces_agrees {n m : Nat} (h : Joined closed i j) (hne : i.rest ≠ [])
    (hn : i.rest.length ≤ n) (hm : j.rest.length ≤ m) (read : Nat × Nat) :
    AgreesSoFar closed (fun a b => a = b) (hexDigitsInBraces n read i)
      (hexDigitsInBraces m read j) := by
  induction n generalizing m i j read with
  | zero => exact absurd (List.length_eq_zero_iff.1 (Nat.le_zero.1 hn)) hne
  | succ n ih =>
    have hi := Input.length_nextOverBlanks_lt hne
    have hj := Input.length_nextOverBlanks_lt (h.rest_ne_nil hne)
    have hnext := (h.next hne).skipBlanks
    obtain ⟨m, rfl⟩ : ∃ k, m = k + 1 := Nat.exists_eq_succ_of_ne_zero (by omega)
    rw [hexDigitsInBraces, hexDigitsInBraces, run_advanceOverBlanks_bind, run_peek_bind,
      run_advanceOverBlanks_bind, run_peek_bind]
    generalize i.next.skipBlanks = i' at hnext hi ⊢
    generalize j.next.skipBlanks = j' at hnext hj ⊢
    cases hnext with
    | inside c cs p q spaced =>
      refine .ite Iff.rfl (fun _ => ?_) fun _ => .joined rfl (.inside c cs p q spaced)
      rw [run_bind, run_bind]
      cases hd : Text.hexValue? c with
      | some d =>
        rw [hexDigit_of_digit (i := ⟨c :: cs, p, spaced⟩) hd,
          hexDigit_of_digit (i := ⟨c :: (cs ++ behind closed), q, spaced⟩) hd]
        exact ih (.inside c cs p q spaced) (List.cons_ne_nil c cs) (by omega) (by omega) _
      | none =>
        rw [hexDigit_of_none (i := ⟨c :: cs, p, spaced⟩) hd,
          hexDigit_of_none (i := ⟨c :: (cs ++ behind closed), q, spaced⟩) hd]
        exact .agrees (agrees_error _ _ _ _)
    | ended p q spaced => exact .joined rfl (.ended p q spaced)
    | behind hclosed p q spaced =>
      -- The closing parenthesis is no digit.
      refine .ended rfl ?_
      exact lost_error _ _

theorem charOfNumber_bind_agrees {α β : Type} {R : α → β → Prop} {f : Char → Reading α}
    {g : Char → Reading β} {value : Nat} {s t : Span}
    (h : ∀ c, Agrees closed R (f c i) (g c j)) :
    Agrees closed R ((charOfNumber value s >>= f) i) ((charOfNumber value t >>= g) j) := by
  by_cases hvalid : value.isValidChar
  · rw [charOfNumber_of_valid hvalid, charOfNumber_of_valid hvalid]
    exact h _
  · rw [charOfNumber_of_not_valid hvalid, charOfNumber_of_not_valid hvalid]
    exact agrees_error _ _ _ _

theorem readHex_agrees (h : Joined closed i j) (hne : i.rest ≠ []) (start start' : Place)
    (digits : Nat) :
    Agrees closed Node.Same (readHex start digits i) (readHex start' digits j) := by
  unfold readHex
  refine .goOn h hne (fun _ => ⟨_, rfl⟩) (fun _ => ⟨_, rfl⟩) ?_ ?_
  · exact fun q spaced => lost_error _ _
  intro c cs p q spaced
  refine .ite Iff.rfl (fun _ => ?_) fun _ => ?_
  · rw [run_nextSpan_bind, run_nextSpan_bind, run_get_bind, run_get_bind]
    have hjoined : Joined closed ⟨c :: cs, p, spaced⟩ ⟨c :: (cs ++ behind closed), q, spaced⟩ :=
      .inside c cs p q spaced
    have hdigits := hexDigitsInBraces_agrees hjoined (List.cons_ne_nil c cs) (Nat.le_refl _)
      (Nat.le_refl _) (0, 0)
    have hchar (count value : Nat) (first : Place) (s : Span) : Advances (do
        if count = 0 then
          refuse .escapeHexEmpty (← spanFrom first)
        let c ← charOfNumber value s
        return Node.literal ⟨← spanFrom start', c, false⟩) :=
      .ite ((advances_spanFrom _).bind fun _ => advances_refuse_bind _ _ _) <|
        (advances_charOfNumber _ _).bind fun _ => (advances_spanFrom _).bind fun _ =>
          advances_pure _
    refine hdigits.bind_agrees ?_ ?_ ?_
    · rintro ⟨value, count⟩ ⟨rest, p, spaced⟩ rfl
      exact ⟨_, rfl⟩
    · exact fun read => advances_atEnd.bind fun _ =>
        .ite ((advances_spanFrom _).bind fun _ => advances_refuse_bind _ _ _) <|
          advances_here.bind fun _ => advances_advanceOverBlanks.bind fun _ => hchar _ _ _ _
    · rintro ⟨value, count⟩ b i j rfl hj
      refine .unlessEnd hj (fun _ => ⟨_, rfl⟩) (fun _ => ⟨_, rfl⟩) ?_ ?_
      · exact fun q spaced => lost_advanceOverBlanks (fun _ => hchar _ _ _ _) q spaced
      · intro c cs p q spaced
        have hhere : Joined closed ⟨c :: cs, p, spaced⟩ ⟨c :: (cs ++ behind closed), q, spaced⟩ :=
          .inside c cs p q spaced
        refine .ite Iff.rfl (fun _ => agrees_error _ _ _ _) fun _ => ?_
        exact charOfNumber_bind_agrees fun c =>
          .joined rfl (hhere.next (List.cons_ne_nil _ _)).skipBlanks
  · refine hexDigit_bind_agrees fun value => hexDigits_bind_agrees _ _ c cs p q spaced ?_
    intro value c cs p q spaced
    have hhere : Joined closed ⟨c :: cs, p, spaced⟩ ⟨c :: (cs ++ behind closed), q, spaced⟩ :=
      .inside c cs p q spaced
    rw [run_advanceOverBlanks_bind, run_spanFrom_bind, run_advanceOverBlanks_bind,
      run_spanFrom_bind]
    exact charOfNumber_bind_agrees fun c =>
      .joined rfl (hhere.next (List.cons_ne_nil _ _)).skipBlanks

/-! ## Classes -/

theorem lost_untilBrace {m : Nat} (hm : 0 < m) (read : List Char) (q : Place) (spaced : Bool) :
    Lost true (untilBrace m read ⟨closing, q, spaced⟩) := by
  obtain ⟨m, rfl⟩ := Nat.exists_eq_succ_of_ne_zero (Nat.ne_of_gt hm)
  rw [untilBrace]
  refine lost_advanceOverBlanks (fun more => .ite ?_ (advances_pure _)) q spaced
  refine advances_peek.bind fun c => ?_
  split
  · exact advances_pure _
  · exact advances_untilBrace _ _
  · exact advances_pure _

theorem untilBrace_agrees {n m : Nat} (h : Joined closed i j) (hne : i.rest ≠ [])
    (hn : i.rest.length ≤ n) (hm : j.rest.length ≤ m) (read : List Char) :
    AgreesSoFar closed (fun a b => a = b) (untilBrace n read i) (untilBrace m read j) := by
  induction n generalizing m i j read with
  | zero => exact absurd (List.length_eq_zero_iff.1 (Nat.le_zero.1 hn)) hne
  | succ n ih =>
    have hi := Input.length_nextOverBlanks_lt hne
    have hj := Input.length_nextOverBlanks_lt (h.rest_ne_nil hne)
    have hnext := (h.next hne).skipBlanks
    obtain ⟨m, rfl⟩ : ∃ k, m = k + 1 := Nat.exists_eq_succ_of_ne_zero (by omega)
    rw [untilBrace, untilBrace, run_advanceOverBlanks_bind, run_advanceOverBlanks_bind]
    generalize i.next.skipBlanks = i' at hnext hi ⊢
    generalize j.next.skipBlanks = j' at hnext hj ⊢
    cases hnext with
    | inside c cs p q spaced =>
      have hhere : Joined closed ⟨c :: cs, p, spaced⟩ ⟨c :: (cs ++ behind closed), q, spaced⟩ :=
        .inside c cs p q spaced
      refine .ite Iff.rfl (fun _ => ?_) fun _ => .joined rfl hhere
      rw [run_peek_bind, run_peek_bind, List.head?_cons, List.head?_cons]
      by_cases hc : c = '\x7d'
      · subst hc
        exact .joined rfl hhere
      · simp only
        exact ih hhere (List.cons_ne_nil c cs) (by omega) (by omega) _
    | ended p q spaced => exact .joined rfl (.ended p q spaced)
    | behind hclosed p q spaced =>
      subst hclosed
      have hm' : 0 < m := by
        change 3 < _ at hj
        omega
      exact .ended rfl (lost_untilBrace hm' _ q spaced)

theorem readProperty_agrees (h : Joined closed i j) (hne : i.rest ≠ []) (negated : Bool) :
    Agrees closed
      (fun m n => ∃ s t query, m = .property s negated query ∧ n = .property t negated query)
      (readProperty negated i) (readProperty negated j) := by
  unfold readProperty
  refine .goOn h hne (fun _ => ⟨_, rfl⟩) (fun _ => ⟨_, rfl⟩) ?_ ?_
  · exact fun q spaced => lost_advanceOverBlanks (fun _ => advances_pointHere.bind fun _ =>
      advances_pure _) q spaced
  intro c cs p q spaced
  have hhere : Joined closed ⟨c :: cs, p, spaced⟩ ⟨c :: (cs ++ behind closed), q, spaced⟩ :=
    .inside c cs p q spaced
  change Agrees closed _ ((peek >>= _) _) ((peek >>= _) _)
  rw [run_peek_bind, run_peek_bind, List.head?_cons, List.head?_cons]
  by_cases hbrace : c = '\x7b'
  · subst hbrace
    have htext := untilBrace_agrees hhere (List.cons_ne_nil _ cs) (Nat.le_refl _) (Nat.le_refl _) []
    have hproperty (text : List Char) : Advances (do
        let _ ← advance
        return Node.property (← pointHere) negated (.ofText text)) :=
      advances_advance.bind fun _ => advances_pointHere.bind fun _ => advances_pure _
    change Agrees closed _ (((get : Reading Input) >>= _) _) (((get : Reading Input) >>= _) _)
    rw [run_get_bind, run_get_bind]
    refine htext.bind_agrees ?_ ?_ ?_
    · rintro text ⟨rest, p, spaced⟩ rfl
      exact ⟨_, rfl⟩
    · exact fun text => advances_atEnd.bind fun _ =>
        .ite (advances_pointHere.bind fun _ => advances_refuse_bind _ _ _) (hproperty text)
    · rintro text b i j rfl hj
      refine .unlessEnd hj (fun _ => ⟨_, rfl⟩) (fun _ => ⟨_, rfl⟩) ?_ ?_
      · exact fun q spaced => lost_advance (fun _ => advances_pointHere.bind fun _ =>
          advances_pure _) q spaced
      · exact fun c cs p q spaced =>
          .joined ⟨_, _, _, rfl, rfl⟩
            ((Joined.inside c cs p q spaced).next (List.cons_ne_nil c cs))
  · simp only
    exact .ite Iff.rfl (fun _ => agrees_error _ _ _ _) fun _ =>
      .joined ⟨_, _, _, rfl, rfl⟩ (hhere.next (List.cons_ne_nil c cs)).skipBlanks

/-! ## Word boundaries -/

theorem readsWhile_anchorName : ReadsWhile isAnchorChar anchorName where
  stop n chars i h := by
    cases n with
    | zero => rfl
    | succ n =>
      rw [anchorName, run_peek_bind]
      cases hc : i.rest.head? with
      | none => rfl
      | some c =>
        rw [hc, Option.any_some] at h
        simp only [h]
        rfl
  char n chars i c h hc := by
    rw [anchorName, run_peek_bind, h]
    simp only [hc, if_true]
    rfl

theorem anchorName_agrees {n m : Nat} (h : Joined closed i j) (hn : i.rest.length ≤ n)
    (hm : j.rest.length ≤ m) (read : List Char) :
    Agrees closed (fun a b => a = b) (anchorName n read i) (anchorName m read j) := by
  obtain ⟨found, i', j', hi, hj, hij⟩ :=
    readsWhile_anchorName.joined (by decide) h hn hm read
  rw [hi, hj]
  exact .joined rfl hij

/-- The closing parenthesis stands behind the next character and blanks. -/
def Dangling (j : Input) : Prop := j.next.skipBlanks.rest = closing

theorem readAnchorName?_agrees (h : Joined closed i j) (hne : i.rest ≠ []) (start start' : Place) :
    Agrees closed (fun a b => a = b) (readAnchorName? start i) (readAnchorName? start' j) ∨
      (∃ e, readAnchorName? start i = .error e) ∧
        readAnchorName? start' j = .ok (none, j) ∧ Dangling j := by
  have hnext := (h.next hne).skipBlanks
  unfold readAnchorName?
  rw [run_get_bind, run_get_bind, run_advanceOverBlanks_bind, run_advanceOverBlanks_bind, Dangling]
  generalize i.next.skipBlanks = i' at hnext ⊢
  generalize j.next.skipBlanks = j' at hnext ⊢
  cases hnext with
  | inside c cs p q spaced =>
    refine .inl ?_
    change Agrees closed _ ((here >>= _) _) ((here >>= _) _)
    rw [run_here_bind, run_peek_bind, run_here_bind, run_peek_bind]
    refine .ite Iff.rfl (fun _ => .joined rfl h) fun _ => ?_
    have hjoined : Joined closed ⟨c :: cs, p, spaced⟩ ⟨c :: (cs ++ behind closed), q, spaced⟩ :=
      .inside c cs p q spaced
    have hname := anchorName_agrees hjoined (Nat.le_refl _)
      (Nat.le_refl _) []
    rw [run_get_bind, run_get_bind]
    refine hname.bind (fun name => ?_) ?_
    · refine advances_peek.bind fun c =>
        .ite ((advances_spanFrom _).bind fun _ => advances_refuse_bind _ _ _) <|
          advances_here.bind fun last => advances_advance.bind fun _ => ?_
      split
      · exact advances_pure _
      · exact advances_refuse _ _
    · rintro name _ i j rfl hj
      rw [run_peek_bind, run_peek_bind]
      refine .ite (not_congr (hj.head?_eq_iff (by decide)).symm) (fun _ => agrees_error _ _ _ _)
        fun hbrace => ?_
      have hne : i.rest ≠ [] := by
        intro hnil
        rw [hnil] at hbrace
        exact hbrace fun h => by cases h
      cases Anchor.inBraces.lookup (String.ofList name) with
      | some anchor => exact .joined rfl (hj.next hne)
      | none => exact agrees_error _ _ _ _
  | ended p q spaced => exact .inl (agrees_error _ _ _ _)
  | behind hclosed p q spaced => exact .inr ⟨⟨_, rfl⟩, rfl, rfl⟩

/-- The reader agrees, or it is at a word boundary, behind which a brace is open at the end of the
pattern. -/
def AgreesOrDangles (closed : Bool) (x : Except Fault (Node × Input))
    (y : Except Fault (Node × Input)) : Prop :=
  Agrees closed Node.Same x y ∨
    (∃ e, x = .error e) ∧ ∃ span j, y = .ok (.anchor span .wordBoundary, j) ∧
      j.rest.head? = some '\x7b' ∧ Dangling j

theorem readBoundary_agrees (h : Joined closed i j) (start start' : Place) :
    AgreesOrDangles closed (readBoundary start i) (readBoundary start' j) := by
  unfold readBoundary
  rw [run_spanFrom_bind, run_spanFrom_bind, run_peek_bind, run_peek_bind]
  by_cases hbrace : i.rest.head? = some '\x7b'
  · have hbrace' := (h.head?_eq_iff (by decide)).2 hbrace
    rw [if_pos hbrace, if_pos hbrace']
    have hne : i.rest ≠ [] := by
      intro hnil
      rw [hnil] at hbrace
      cases hbrace
    rcases readAnchorName?_agrees h hne start start' with hagrees | ⟨⟨e, he⟩, hj, hdangling⟩
    · refine .inl (hagrees.bind (fun anchor => ?_) ?_)
      · split
        · exact (advances_spanFrom _).bind fun _ => advances_pure _
        · exact advances_pure _
      · rintro anchor _ i j rfl hj
        cases anchor with
        | some anchor => exact .joined rfl hj
        | none => exact .joined rfl hj
    · rw [run_bind, run_bind, he, hj]
      exact .inr ⟨⟨e, rfl⟩, _, j, rfl, hbrace', hdangling⟩
  · rw [if_neg hbrace, if_neg fun h' => hbrace ((h.head?_eq_iff (by decide)).1 h')]
    exact .inl (.joined rfl h)

/-! ## Escapes -/

theorem simpleEscape_agrees (h : Joined closed i j) (c : Char) (s t : Span) :
    Agrees closed Node.Same (simpleEscape c s i) (simpleEscape c t j) := by
  unfold simpleEscape
  refine .ite Iff.rfl (fun _ => .joined rfl h) fun _ => ?_
  cases controlLetters.lookup c with
  | some control => exact .joined rfl h
  | none =>
    cases Anchor.lettered.lookup c with
    | some anchor => exact .joined rfl h
    | none => exact agrees_error _ _ _ _

/-- **An escape is read alike,** whatever is behind the pattern. -/
theorem readEscape_agrees (h : Joined closed i j) (hne : i.rest ≠ []) :
    AgreesOrDangles closed (readEscape i) (readEscape j) := by
  unfold readEscape
  rw [run_here_bind, run_here_bind, run_advance_bind, run_advance_bind]
  have hnext := h.next hne
  generalize i.next = i' at hnext ⊢
  generalize j.next = j' at hnext ⊢
  cases hnext with
  | ended p q spaced => exact .inl (agrees_error _ _ _ _)
  | behind hclosed p q spaced =>
    -- The parenthesis would be a character that stands for itself.
    subst hclosed
    refine .inl (.refused _ fun n j'' h => ?_)
    cases h
    exact ⟨rfl, not_mem_next_closing q spaced⟩
  | inside c cs p q spaced =>
    have hhere : Joined closed ⟨c :: cs, p, spaced⟩ ⟨c :: (cs ++ behind closed), q, spaced⟩ :=
      .inside c cs p q spaced
    have hne := List.cons_ne_nil c cs
    change AgreesOrDangles closed ((peek >>= _) _) ((peek >>= _) _)
    rw [run_peek_bind, run_peek_bind, List.head?_cons, List.head?_cons]
    change AgreesOrDangles closed ((nextSpan >>= _) _) ((nextSpan >>= _) _)
    rw [run_nextSpan_bind, run_nextSpan_bind]
    by_cases hdigit : c.isDigit = true
    · rw [if_pos hdigit, if_pos hdigit]
      exact .inl (agrees_error _ _ _ _)
    rw [if_neg hdigit, if_neg hdigit]
    by_cases hx : c = 'x'
    · rw [if_pos hx, if_pos hx]
      exact .inl (readHex_agrees hhere hne _ _ 2)
    rw [if_neg hx, if_neg hx]
    by_cases hu : c = 'u'
    · rw [if_pos hu, if_pos hu]
      exact .inl (readHex_agrees hhere hne _ _ 4)
    rw [if_neg hu, if_neg hu]
    by_cases hU : c = 'U'
    · rw [if_pos hU, if_pos hU]
      exact .inl (readHex_agrees hhere hne _ _ 8)
    rw [if_neg hU, if_neg hU]
    by_cases hp : c = 'p' ∨ c = 'P'
    · rw [if_pos hp, if_pos hp]
      refine .inl ((readProperty_agrees hhere hne _).bind (fun n => ?_) ?_)
      · split
        · exact advances_pure _
        · exact advances_pure _
      · rintro m n i j ⟨s, t, query, rfl, rfl⟩ hj
        exact .joined rfl hj
    · rw [if_neg hp, if_neg hp, run_advance_bind, run_advance_bind]
      cases Shorthand.lettered.lookup c with
      | some shorthand => exact .inl (.joined rfl (hhere.next hne))
      | none =>
        dsimp only
        by_cases hb : c = 'b'
        · rw [if_pos hb, if_pos hb]
          exact readBoundary_agrees (hhere.next hne) _ _
        · rw [if_neg hb, if_neg hb]
          exact .inl (simpleEscape_agrees (hhere.next hne) c _ _)

end Pattern

end Switchboard
