import Mathlib.Data.List.Forall2
import Switchboard.Proofs.Pattern.Language
/-!
# Programs read what their patterns mean

An assembled program has a path between two places for just what its meaning reads there
(`assemble_leads`). Each part is assembled in front of an instruction that it goes on with, and
depends on none of the code that was there before (`Emits`).
-/

namespace Switchboard

namespace Pattern

/-! ## Paths -/

/-- A step of a thread. -/
inductive Moves (code : Code) : Thread → Spot → Thread → Spot → Prop where
  | read {pc next : Nat} {set : CharSet} {s t : Spot} (notes : Notes)
      (h : code[pc]? = some (.read set next)) (hread : ReadsOne (set.contains ·) s t) :
      Moves code ⟨pc, notes⟩ s ⟨next, notes⟩ t
  | require {pc next : Nat} {condition : Condition} {s : Spot} (notes : Notes)
      (h : code[pc]? = some (.require condition next))
      (hholds : condition.holds s.before s.rest.head? = true) :
      Moves code ⟨pc, notes⟩ s ⟨next, notes⟩ s
  | note {pc slot next : Nat} {s : Spot} (notes : Notes)
      (h : code[pc]? = some (.note slot next)) :
      Moves code ⟨pc, notes⟩ s ⟨next, (slot, s) :: notes⟩ s
  | first {pc first second : Nat} {s : Spot} (notes : Notes)
      (h : code[pc]? = some (.split first second)) :
      Moves code ⟨pc, notes⟩ s ⟨first, notes⟩ s
  | second {pc first second : Nat} {s : Spot} (notes : Notes)
      (h : code[pc]? = some (.split first second)) :
      Moves code ⟨pc, notes⟩ s ⟨second, notes⟩ s

section Moves

variable {code : Code} {pc next : Nat} {notes : Notes} {s t : Spot} {v : Thread}

theorem moves_read {set : CharSet} (h : code[pc]? = some (.read set next)) :
    Moves code ⟨pc, notes⟩ s v t ↔ v = ⟨next, notes⟩ ∧ ReadsOne (set.contains ·) s t := by
  constructor
  · intro hmoves
    cases hmoves with
    | read _ h' hread =>
      cases h.symm.trans h'
      exact ⟨rfl, hread⟩
    | require _ h' | note _ h' | first _ h' | second _ h' => cases h.symm.trans h'
  · rintro ⟨rfl, hread⟩
    exact .read notes h hread

theorem moves_require {condition : Condition} (h : code[pc]? = some (.require condition next)) :
    Moves code ⟨pc, notes⟩ s v t ↔
      v = ⟨next, notes⟩ ∧ condition.holds s.before s.rest.head? = true ∧ t = s := by
  constructor
  · intro hmoves
    cases hmoves with
    | require _ h' hholds =>
      cases h.symm.trans h'
      exact ⟨rfl, hholds, rfl⟩
    | read _ h' | note _ h' | first _ h' | second _ h' => cases h.symm.trans h'
  · rintro ⟨rfl, hholds, rfl⟩
    exact .require notes h hholds

theorem moves_note {slot : Nat} (h : code[pc]? = some (.note slot next)) :
    Moves code ⟨pc, notes⟩ s v t ↔ v = ⟨next, (slot, s) :: notes⟩ ∧ t = s := by
  constructor
  · intro hmoves
    cases hmoves with
    | note _ h' =>
      cases h.symm.trans h'
      exact ⟨rfl, rfl⟩
    | read _ h' | require _ h' | first _ h' | second _ h' => cases h.symm.trans h'
  · rintro ⟨rfl, rfl⟩
    exact .note notes h

theorem moves_split {first second : Nat} (h : code[pc]? = some (.split first second)) :
    Moves code ⟨pc, notes⟩ s v t ↔ (v = ⟨first, notes⟩ ∨ v = ⟨second, notes⟩) ∧ t = s := by
  constructor
  · intro hmoves
    cases hmoves with
    | first _ h' =>
      cases h.symm.trans h'
      exact ⟨.inl rfl, rfl⟩
    | second _ h' =>
      cases h.symm.trans h'
      exact ⟨.inr rfl, rfl⟩
    | read _ h' | require _ h' | note _ h' => cases h.symm.trans h'
  · rintro ⟨rfl | rfl, rfl⟩
    · exact .first notes h
    · exact .second notes h

end Moves

/-- So many steps of a thread. -/
inductive Path (code : Code) : Nat → Thread → Spot → Thread → Spot → Prop where
  | stop (u : Thread) (s : Spot) : Path code 0 u s u s
  | go {n : Nat} {u v w : Thread} {s t r : Spot} (h : Moves code u s v t)
      (hpath : Path code n v t w r) : Path code (n + 1) u s w r

theorem Path.trans {code : Code} {n m : Nat} {u v w : Thread} {s t r : Spot}
    (h : Path code n u s v t) (h' : Path code m v t w r) : Path code (n + m) u s w r := by
  induction h with
  | stop u s => exact (Nat.zero_add m).symm ▸ h'
  | @go n u v w s t r hmoves _ ih => exact (Nat.succ_add n m).symm ▸ .go hmoves (ih h')

/-- A thread has come to a match. -/
def Matched (code : Code) (u : Thread) : Prop := code[u.instruction]? = some .accept

/-- The code leads from one instruction to another over what a relation says, and on every path to
a match it does. -/
structure Leads (code : Code) (entry next : Nat) (R : Spot → Spot → Prop) : Prop where
  there {s t : Spot} (h : R s t) (notes : Notes) :
    ∃ n notes', Path code n ⟨entry, notes⟩ s ⟨next, notes'⟩ t
  only {n : Nat} {notes : Notes} {s r : Spot} {u : Thread} (h : Path code n ⟨entry, notes⟩ s u r)
    (hmatched : Matched code u) :
    ∃ m t notes', m ≤ n ∧ R s t ∧ notes <:+ notes' ∧ Path code m ⟨next, notes'⟩ t u r

section Leads

variable {code : Code} {entry mid next first second : Nat} {R S : Spot → Spot → Prop}

theorem Leads.congr (h : Leads code entry next R) (hiff : ∀ s t, R s t ↔ S s t) :
    Leads code entry next S where
  there hs := h.there ((hiff _ _).2 hs)
  only hpath hmatched := by
    obtain ⟨m, t, notes', hle, hR, hnotes, hpath⟩ := h.only hpath hmatched
    exact ⟨m, t, notes', hle, (hiff _ _).1 hR, hnotes, hpath⟩

theorem leads_refl (next : Nat) : Leads code next next fun s t => t = s where
  there h notes := h ▸ ⟨0, notes, .stop _ _⟩
  only h _ := ⟨_, _, _, Nat.le_refl _, rfl, List.suffix_rfl, h⟩

theorem Leads.comp (h : Leads code entry mid R) (h' : Leads code mid next S) :
    Leads code entry next fun s t => ∃ r, R s r ∧ S r t where
  there hs notes := by
    obtain ⟨r, hR, hS⟩ := hs
    obtain ⟨n, notes', hpath⟩ := h.there hR notes
    obtain ⟨m, notes'', hpath'⟩ := h'.there hS notes'
    exact ⟨_, _, hpath.trans hpath'⟩
  only hpath hmatched := by
    obtain ⟨m, r, notes', hm, hR, hnotes, hpath⟩ := h.only hpath hmatched
    obtain ⟨k, t, notes'', hk, hS, hnotes', hpath⟩ := h'.only hpath hmatched
    exact ⟨k, t, notes'', Nat.le_trans hk hm, ⟨r, hR, hS⟩, hnotes.trans hnotes', hpath⟩

/-- What does not accept makes a step. -/
theorem Path.step {i : Instruction} {n : Nat} {notes : Notes} {s r : Spot} {u : Thread}
    (h : Path code n ⟨entry, notes⟩ s u r) (hi : code[entry]? = some i) (hne : i ≠ .accept)
    (hmatched : Matched code u) :
    ∃ m v t, n = m + 1 ∧ Moves code ⟨entry, notes⟩ s v t ∧ Path code m v t u r := by
  cases h with
  | stop =>
    rw [Matched, hi] at hmatched
    exact absurd (Option.some.inj hmatched) hne
  | go hmoves hpath => exact ⟨_, _, _, rfl, hmoves, hpath⟩

theorem leads_read {set : CharSet} (h : code[entry]? = some (.read set next)) :
    Leads code entry next (ReadsOne (set.contains ·)) where
  there hs notes := ⟨1, notes, .go (.read notes h hs) (.stop _ _)⟩
  only hpath hmatched := by
    obtain ⟨m, v, t, rfl, hmoves, hrest⟩ := hpath.step h (fun h => by cases h) hmatched
    obtain ⟨rfl, hread⟩ := (moves_read h).1 hmoves
    exact ⟨m, t, _, Nat.le_succ m, hread, List.suffix_rfl, hrest⟩

theorem leads_require {condition : Condition} (h : code[entry]? = some (.require condition next)) :
    Leads code entry next fun s t => condition.holds s.before s.rest.head? = true ∧ t = s where
  there hs notes := by
    obtain ⟨hholds, rfl⟩ := hs
    exact ⟨1, notes, .go (.require notes h hholds) (.stop _ _)⟩
  only hpath hmatched := by
    obtain ⟨m, v, t, rfl, hmoves, hrest⟩ := hpath.step h (fun h => by cases h) hmatched
    obtain ⟨rfl, hholds, rfl⟩ := (moves_require h).1 hmoves
    exact ⟨m, _, _, Nat.le_succ m, ⟨hholds, rfl⟩, List.suffix_rfl, hrest⟩

theorem leads_note {slot : Nat} (h : code[entry]? = some (.note slot next)) :
    Leads code entry next fun s t => t = s where
  there hs notes := hs ▸ ⟨1, _, .go (.note notes h) (.stop _ _)⟩
  only hpath hmatched := by
    obtain ⟨m, v, t, rfl, hmoves, hrest⟩ := hpath.step h (fun h => by cases h) hmatched
    obtain ⟨rfl, rfl⟩ := (moves_note h).1 hmoves
    exact ⟨m, _, _, Nat.le_succ m, rfl, List.suffix_cons _ _, hrest⟩

/-- Of two ways, each leads on. -/
theorem leads_split (h : code[entry]? = some (.split first second)) (hfirst : Leads code first next R)
    (hsecond : Leads code second next S) :
    Leads code entry next fun s t => R s t ∨ S s t where
  there hs notes := by
    rcases hs with hR | hS
    · obtain ⟨n, notes', hpath⟩ := hfirst.there hR notes
      exact ⟨n + 1, notes', .go (.first notes h) hpath⟩
    · obtain ⟨n, notes', hpath⟩ := hsecond.there hS notes
      exact ⟨n + 1, notes', .go (.second notes h) hpath⟩
  only hpath hmatched := by
    obtain ⟨m, v, t, rfl, hmoves, hrest⟩ := hpath.step h (fun h => by cases h) hmatched
    obtain ⟨rfl | rfl, rfl⟩ := (moves_split h).1 hmoves
    · obtain ⟨k, t, notes', hk, hR, hnotes, hpath⟩ := hfirst.only hrest hmatched
      exact ⟨k, t, notes', Nat.le_succ_of_le hk, .inl hR, hnotes, hpath⟩
    · obtain ⟨k, t, notes', hk, hS, hnotes, hpath⟩ := hsecond.only hrest hmatched
      exact ⟨k, t, notes', Nat.le_succ_of_le hk, .inr hS, hnotes, hpath⟩

/-- The preferred way does not matter for where a branch leads. -/
theorem leads_branch {greedy : Bool} {inside outside : Nat}
    (h : code[entry]? = some (Assembly.branch greedy inside outside))
    (hinside : Leads code inside next R) (houtside : Leads code outside next S) :
    Leads code entry next fun s t => R s t ∨ S s t := by
  cases greedy with
  | true => exact leads_split h hinside houtside
  | false => exact (leads_split h houtside hinside).congr fun _ _ => or_comm

/-- **A loop** leads on over any number of turns: each turn of a path to a match makes the path
shorter. -/
theorem leads_loop {greedy : Bool} {turn : Nat}
    (h : code[turn]? = some (Assembly.branch greedy entry next)) (hbody : Leads code entry turn R) :
    Leads code turn next fun s t => ∃ n, Iterates R n s t := by
  have hmoves {notes : Notes} {s t : Spot} {v : Thread} :
      Moves code ⟨turn, notes⟩ s v t ↔ (v = ⟨entry, notes⟩ ∨ v = ⟨next, notes⟩) ∧ t = s := by
    cases greedy with
    | true => exact moves_split h
    | false => exact (moves_split h).trans (and_congr or_comm Iff.rfl)
  refine ⟨?_, ?_⟩
  · rintro s t ⟨n, hn⟩ notes
    induction n generalizing s notes with
    | zero =>
      obtain rfl : t = s := hn
      exact ⟨1, notes, .go (hmoves.2 ⟨.inr rfl, rfl⟩) (.stop _ _)⟩
    | succ n ih =>
      obtain ⟨r, hR, hrest⟩ := hn
      obtain ⟨m, notes', hpath⟩ := hbody.there hR notes
      obtain ⟨k, notes'', hpath'⟩ := ih hrest notes'
      exact ⟨_, notes'', .go (hmoves.2 ⟨.inl rfl, rfl⟩) (hpath.trans hpath')⟩
  · intro n notes s r u hpath hmatched
    induction n using Nat.strongRecOn generalizing notes s with
    | ind n ih =>
      have hne : Assembly.branch greedy entry next ≠ .accept := by
        cases greedy <;> exact fun h => by cases h
      obtain ⟨m, v, t, rfl, hmove, hrest⟩ := hpath.step h hne hmatched
      obtain ⟨rfl | rfl, rfl⟩ := hmoves.1 hmove
      · obtain ⟨k, t, notes', hk, hR, hnotes, hpath⟩ := hbody.only hrest hmatched
        obtain ⟨l, t', notes'', hl, ⟨count, hcount⟩, hnotes', hpath⟩ :=
          ih k (Nat.lt_succ_of_le hk) hpath
        exact ⟨l, t', notes'', by omega, ⟨count + 1, t, hR, hcount⟩, hnotes.trans hnotes', hpath⟩
      · exact ⟨m, t, notes, Nat.le_succ m, ⟨0, rfl⟩, List.suffix_rfl, hrest⟩

end Leads

/-! ## Emitting code -/

/-- What is assembled behind some code, and all the code then. -/
def Assembly.out {α : Type} (x : Assembly α) (code : Code) : α × Code := (x.run code).run

/-- The code from one size to another is as in some other code. -/
def AgreeBetween (code full : Code) (first : Nat) : Prop :=
  ∀ i, first ≤ i → i < code.size → full[i]? = code[i]?

/-- The code that was there stays as it is, and the code behind it has a property, whatever becomes
of the code elsewhere. -/
structure Emits {α : Type} (x : Assembly α) (Q : Code → α → Prop) : Prop where
  keeps (code : Code) {i : Nat} (hi : i < code.size) : (x.out code).2[i]? = code[i]?
  grows (code : Code) : code.size ≤ (x.out code).2.size
  holds (code full : Code) (h : AgreeBetween (x.out code).2 full code.size) :
    Q full (x.out code).1

section Emits

variable {α β : Type} {x : Assembly α} {f : α → Assembly β} {Q Q' : Code → α → Prop}

theorem emits_pure (a : α) : Emits (pure a : Assembly α) fun _ b => b = a where
  keeps _ _ _ := rfl
  grows _ := Nat.le_refl _
  holds _ _ _ := rfl

theorem Emits.mono (h : Emits x Q) (hQ : ∀ full a, Q full a → Q' full a) : Emits x Q' where
  keeps := h.keeps
  grows := h.grows
  holds code full hfull := hQ _ _ (h.holds code full hfull)

theorem Emits.bind {P : α → Code → β → Prop} (h : Emits x Q) (hf : ∀ a, Emits (f a) (P a)) :
    Emits (x >>= f) fun full b => ∃ a, Q full a ∧ P a full b where
  keeps code i hi :=
    ((hf _).keeps _ (Nat.lt_of_lt_of_le hi (h.grows code))).trans (h.keeps code hi)
  grows code := Nat.le_trans (h.grows code) ((hf _).grows _)
  holds code full hfull := by
    refine ⟨(x.out code).1, h.holds code full fun i hi hi' => ?_,
      (hf _).holds (x.out code).2 full fun i hi hi' => ?_⟩
    · exact (hfull i hi (Nat.lt_of_lt_of_le hi' ((hf _).grows _))).trans ((hf _).keeps _ hi')
    · exact hfull i (Nat.le_trans (h.grows code) hi) hi'

theorem emits_emit (i : Instruction) :
    Emits (Assembly.emit i) fun full n => full[n]? = some i where
  keeps code j hj := by
    change (code.push i)[j]? = code[j]?
    rw [Array.getElem?_push_lt hj, Array.getElem?_eq_getElem hj]
  grows code := by
    change code.size ≤ (code.push i).size
    rw [Array.size_push]
    exact Nat.le_succ _
  holds code full hfull := by
    change full[code.size]? = some i
    have hlt : code.size < (code.push i).size := by
      rw [Array.size_push]
      exact Nat.lt_succ_self _
    exact (hfull code.size (Nat.le_refl _) hlt).trans Array.getElem?_push_size

end Emits

/-! ## Parts -/

open Assembly

/-- In front of any instruction, the part assembles code that leads on to it over what a relation
says. -/
def Assembles (part : Part) (R : Spot → Spot → Prop) : Prop :=
  ∀ next, Emits (part next) fun full entry => Leads full entry next R

section Parts

variable {part : Part} {R S : Spot → Spot → Prop} {greedy readsNothing : Bool}

theorem Assembles.congr (h : Assembles part R) (hiff : ∀ s t, R s t ↔ S s t) : Assembles part S :=
  fun next => (h next).mono fun _ _ hleads => hleads.congr hiff

theorem assembles_pure : Assembles (fun next => return next) fun s t => t = s :=
  fun next => (emits_pure next).mono fun _ entry h => by
    obtain rfl : entry = next := h
    exact leads_refl entry

theorem assembles_emit {i : Nat → Instruction}
    (h : ∀ code entry next, code[entry]? = some (i next) → Leads code entry next R) :
    Assembles (fun next => emit (i next)) R :=
  fun next => (emits_emit (i next)).mono fun full entry => h full entry next

/-- What is assembled in front of a part goes on with it. -/
theorem Assembles.bind {before : Part} (h : Assembles before R) (h' : Assembles part S) :
    Assembles (fun next => part next >>= before) fun s t => ∃ r, R s r ∧ S r t :=
  fun next => ((h' next).bind h).mono fun _ _ hleads => by
    obtain ⟨_, hpart, hbefore⟩ := hleads
    exact hbefore.comp hpart

theorem assembles_copies (h : Assembles part R) (n : Nat) :
    Assembles (copies part n) (Iterates R n) := by
  induction n with
  | zero => exact assembles_pure
  | succ n ih => exact (ih.bind h).congr fun s t => (iterates_succ n s t).symm

theorem getElem?_setIfInBounds_of_ne (code : Code) {i j : Nat} (h : i ≠ j) (a : Instruction) :
    (code.setIfInBounds i a)[j]? = code[j]? := by
  rw [Array.getElem?_setIfInBounds, if_neg h]

/-- The instruction that goes round is put in place once its part is assembled. -/
theorem emits_loop (h : Assembles part R) (greedy : Bool) (next : Nat) :
    Emits (loop greedy part next) fun full r =>
      full[r.1]? = some (branch greedy r.2 next) ∧ Leads full r.2 r.1 R := by
  have hpart (code : Code) := h code.size
  have hpush (code : Code) : code.size < (code.push (.split next next)).size := by
    rw [Array.size_push]
    exact Nat.lt_succ_self _
  have hgrows (code : Code) := (hpart code).grows (code.push (.split next next))
  refine ⟨fun code i hi => ?_, fun code => ?_, fun code full hfull => ?_⟩
  · change (Array.setIfInBounds _ code.size _)[i]? = code[i]?
    rw [getElem?_setIfInBounds_of_ne _ (Nat.ne_of_gt hi)]
    refine ((hpart code).keeps _ (Nat.lt_trans hi (hpush code))).trans ?_
    rw [Array.getElem?_push_lt hi, Array.getElem?_eq_getElem hi]
  · change code.size ≤ (Array.setIfInBounds _ code.size _).size
    rw [Array.size_setIfInBounds]
    exact Nat.le_trans (Nat.le_of_lt (hpush code)) (hgrows code)
  · have hsize : code.size < (((part code.size).out (code.push (.split next next))).2).size :=
      Nat.lt_of_lt_of_le (hpush code) (hgrows code)
    have hfull' : AgreeBetween (Array.setIfInBounds
        ((part code.size).out (code.push (.split next next))).2 code.size (branch greedy
          ((part code.size).out (code.push (.split next next))).1 next)) full code.size := hfull
    constructor
    · refine (hfull' code.size (Nat.le_refl _) ?_).trans ?_
      · rw [Array.size_setIfInBounds]
        exact hsize
      · rw [Array.getElem?_setIfInBounds, if_pos rfl, if_pos hsize]
        rfl
    · refine (hpart code).holds (code.push (.split next next)) full fun i hi hi' => ?_
      have hlt : code.size < i := Nat.lt_of_lt_of_le (hpush code) hi
      refine (hfull' i (Nat.le_of_lt hlt) ?_).trans
        (getElem?_setIfInBounds_of_ne _ (Nat.ne_of_lt hlt) _)
      rw [Array.size_setIfInBounds]
      exact hi'

theorem assembles_anyNumber (h : Assembles part R) (greedy readsNothing : Bool) :
    Assembles (anyNumber greedy readsNothing part) fun s t => ∃ n, Iterates R n s t := by
  intro next
  have hloop {full : Code} {r : Nat × Nat} (hturn : full[r.1]? = some (branch greedy r.2 next))
      (hentry : Leads full r.2 r.1 R) := leads_loop hturn hentry
  cases readsNothing with
  | false =>
    refine ((emits_loop h greedy next).bind fun r => emits_pure r.1).mono fun full entry hr => ?_
    obtain ⟨r, ⟨hturn, hentry⟩, rfl⟩ := hr
    exact hloop hturn hentry
  | true =>
    refine ((emits_loop h greedy next).bind fun r => emits_emit (branch greedy r.2 next)).mono
      fun full entry hr => ?_
    obtain ⟨r, ⟨hturn, hentry⟩, hbranch⟩ := hr
    refine (leads_branch hbranch (hentry.comp (hloop hturn hentry)) (leads_refl next)).congr ?_
    intro s t
    constructor
    · rintro (⟨q, hR, n, hn⟩ | rfl)
      · exact ⟨n + 1, q, hR, hn⟩
      · exact ⟨0, rfl⟩
    · rintro ⟨n, hn⟩
      cases n with
      | zero => exact .inr hn
      | succ n =>
        obtain ⟨q, hR, hn⟩ := hn
        exact .inl ⟨q, hR, n, hn⟩

theorem assembles_atLeast (h : Assembles part R) (greedy readsNothing : Bool) (n : Nat) :
    Assembles (atLeast greedy readsNothing part n) fun s t => ∃ k, n ≤ k ∧ Iterates R k s t := by
  cases n with
  | zero =>
    refine (assembles_anyNumber h greedy readsNothing).congr fun s t => ?_
    exact exists_congr fun k => (and_iff_right (Nat.zero_le k)).symm
  | succ n =>
    intro next
    refine ((emits_loop h greedy next).bind fun r => assembles_copies h n r.2).mono
      fun full entry hr => ?_
    obtain ⟨r, ⟨hturn, hentry⟩, hcopies⟩ := hr
    refine (hcopies.comp (hentry.comp (leads_loop hturn hentry))).congr fun s t => ?_
    constructor
    · rintro ⟨q, hq, q', hR, k, hk⟩
      refine ⟨n + (k + 1), by omega, (iterates_add n (k + 1) s t).2 ⟨q, hq, q', hR, hk⟩⟩
    · rintro ⟨k, hle, hk⟩
      obtain ⟨k, rfl⟩ : ∃ m, k = n + (m + 1) := ⟨k - n - 1, by omega⟩
      obtain ⟨q, hq, q', hR, hk⟩ := (iterates_add n (k + 1) s t).1 hk
      exact ⟨q, hq, q', hR, k, hk⟩

/-- Copies that can be left out, in front of an instruction that leads on to where they are left. -/
theorem emits_atMost (h : Assembles part R) (greedy : Bool) (exit n next : Nat) :
    Emits (atMost greedy part exit n next) fun full entry => ∀ S, Leads full next exit S →
      Leads full entry exit fun s t =>
        (∃ k, k < n ∧ Iterates R k s t) ∨ ∃ r, Iterates R n s r ∧ S r t := by
  induction n generalizing next with
  | zero =>
    refine (emits_pure next).mono fun full entry hentry S hS => ?_
    obtain rfl : entry = next := hentry
    refine hS.congr fun s t => ?_
    constructor
    · exact fun hst => .inr ⟨s, rfl, hst⟩
    · rintro (⟨k, hk, -⟩ | ⟨r, rfl, hst⟩)
      · exact absurd hk (Nat.not_lt_zero k)
      · exact hst
  | succ n ih =>
    refine (((h next).bind fun e => emits_emit (branch greedy e exit)).bind fun e => ih e).mono
      fun full entry hentry S hS => ?_
    obtain ⟨e, ⟨e', hpart, hbranch⟩, hentry⟩ := hentry
    have he := leads_branch hbranch (hpart.comp hS) (leads_refl exit)
    refine (hentry _ he).congr fun s t => ?_
    constructor
    · rintro (⟨k, hk, hst⟩ | ⟨r, hr, ⟨q, hR, hst⟩ | rfl⟩)
      · exact .inl ⟨k, Nat.lt_succ_of_lt hk, hst⟩
      · exact .inr ⟨q, (iterates_succ n s q).2 ⟨r, hr, hR⟩, hst⟩
      · exact .inl ⟨n, Nat.lt_succ_self n, hr⟩
    · rintro (⟨k, hk, hst⟩ | ⟨q, hq, hst⟩)
      · rcases Nat.lt_succ_iff_lt_or_eq.1 hk with hk | rfl
        · exact .inl ⟨k, hk, hst⟩
        · exact .inr ⟨t, hst, .inr rfl⟩
      · obtain ⟨r, hr, hR⟩ := (iterates_succ n s q).1 hq
        exact .inr ⟨r, hr, .inl ⟨q, hR, hst⟩⟩

theorem assembles_repeated (h : Assembles part R) (min : Nat) (max : Option Nat)
    (greedy readsNothing : Bool) :
    Assembles (Assembly.repeated min max greedy readsNothing part) fun s t =>
      ∃ n, min ≤ n ∧ (∀ m, max = some m → n ≤ m ∨ n = min) ∧ Iterates R n s t := by
  cases max with
  | none =>
    refine (assembles_atLeast h greedy readsNothing min).congr fun s t => ?_
    refine exists_congr fun n => and_congr Iff.rfl (and_iff_right ?_).symm
    exact fun m hm => by cases hm
  | some max =>
    intro next
    refine ((emits_atMost h greedy next (max - min) next).bind fun e =>
      assembles_copies h min e).mono fun full entry hentry => ?_
    obtain ⟨e, hatMost, hcopies⟩ := hentry
    refine (hcopies.comp (hatMost _ (leads_refl next))).congr fun s t => ?_
    constructor
    · rintro ⟨r, hr, ⟨k, hk, hst⟩ | ⟨q, hq, rfl⟩⟩
      · refine ⟨min + k, by omega, fun m hm => ?_, (iterates_add min k s t).2 ⟨r, hr, hst⟩⟩
        obtain rfl := Option.some.inj hm
        omega
      · refine ⟨min + (max - min), by omega, fun m hm => ?_,
          (iterates_add min (max - min) s t).2 ⟨r, hr, hq⟩⟩
        obtain rfl := Option.some.inj hm
        omega
    · rintro ⟨n, hmin, hle, hst⟩
      have hle := hle max rfl
      obtain ⟨k, rfl⟩ := Nat.exists_eq_add_of_le hmin
      obtain ⟨r, hr, hst⟩ := (iterates_add min k s t).1 hst
      refine ⟨r, hr, ?_⟩
      rcases Nat.lt_or_ge k (max - min) with hlt | hge
      · exact .inl ⟨k, hlt, hst⟩
      · obtain rfl : k = max - min := by omega
        exact .inr ⟨t, hst, rfl⟩

end Parts

/-! ## Meanings -/

theorem Core.assembleAll_eq (before : List Part) (cores : List Core) :
    Core.assembleAll before cores = (cores.map Core.assemble).reverse ++ before := by
  induction cores generalizing before with
  | nil => rfl
  | cons core rest ih =>
    rw [Core.assembleAll, ih, List.map_cons, List.reverse_cons, List.append_assoc]
    rfl

/-- The set of one character has just that. -/
theorem contains_singleton (c d : Char) :
    (CharSet.singleton c.toNat).contains d = true ↔ d = c := by
  change (decide (c.toNat ≤ d.toNat) && (decide (d.toNat ≤ c.toNat) || false)) = true ↔ d = c
  rw [Bool.or_false, Bool.and_eq_true, decide_eq_true_iff, decide_eq_true_iff]
  constructor
  · rintro ⟨hle, hge⟩
    exact Char.toNat_inj.1 (Nat.le_antisymm hge hle)
  · rintro rfl
    exact ⟨Nat.le_refl _, Nat.le_refl _⟩

theorem assembles_char (c : Char) :
    Assembles (fun next => emit (.read (.singleton c.toNat) next)) (ReadsOne (· = c)) :=
  (assembles_emit fun _ _ _ => leads_read).congr fun s t => by
    refine exists_congr fun d => exists_congr fun ds => and_congr Iff.rfl (and_congr ?_ Iff.rfl)
    exact contains_singleton c d

theorem assembles_literal (cs : List Char) : Assembles (Core.literal cs).assemble (ReadsText cs) := by
  have hreverse (ds : List Char) : Assembles (fun next =>
      ds.foldlM (fun next c => emit (.read (.singleton c.toNat) next)) next)
      (ReadsText ds.reverse) := by
    induction ds with
    | nil => exact assembles_pure
    | cons d ds ih =>
      intro next
      change Emits ((d :: ds).foldlM _ next) _
      rw [List.foldlM_cons]
      refine (ih.bind (assembles_char d)).congr (fun s t => ?_) next
      rw [List.reverse_cons, Core.readsText_append]
      refine exists_congr fun r => and_congr Iff.rfl ?_
      constructor
      · exact fun h => ⟨t, h, rfl⟩
      · rintro ⟨q, h, rfl⟩
        exact h
  have h := hreverse cs.reverse
  rwa [List.reverse_reverse] at h

theorem assembles_sequence {cores : List Core} (h : ∀ core ∈ cores, Assembles core.assemble core.Reads) :
    Assembles (Core.sequence cores).assemble (Core.ReadsAll cores) := by
  have hreverse (rs : List Core) (hrs : ∀ core ∈ rs, Assembles core.assemble core.Reads) :
      Assembles (inReverse (rs.map Core.assemble)) (Core.ReadsAll rs.reverse) := by
    induction rs with
    | nil => exact assembles_pure
    | cons core rs ih =>
      intro next
      have hcore := hrs core List.mem_cons_self
      have hrest := ih fun core hmem => hrs core (List.mem_cons_of_mem _ hmem)
      change Emits (((core.assemble :: rs.map Core.assemble)).foldlM _ next) _
      rw [List.foldlM_cons]
      refine (hrest.bind hcore).congr (fun s t => ?_) next
      rw [List.reverse_cons, Core.readsAll_append]
      exact exists_congr fun r => and_congr Iff.rfl (Core.readsAll_singleton core).symm
  have h := hreverse cores.reverse fun core hmem => h core (List.mem_reverse.1 hmem)
  rw [List.reverse_reverse, List.map_reverse] at h
  rw [Core.assemble, Core.assembleAll_eq, List.append_nil]
  exact h

/-- Each of some branches is assembled in front of the same instruction. -/
theorem emits_mapM {cores : List Core} (h : ∀ core ∈ cores, Assembles core.assemble core.Reads)
    (next : Nat) :
    Emits ((cores.map Core.assemble).mapM fun part => part next) fun full entries =>
      List.Forall₂ (fun core entry => Leads full entry next core.Reads) cores entries := by
  induction cores with
  | nil =>
    refine (emits_pure []).mono fun full entries hentries => ?_
    obtain rfl : entries = [] := hentries
    exact .nil
  | cons core cores ih =>
    rw [List.map_cons, List.mapM_cons]
    have hcore := h core List.mem_cons_self next
    have hrest := ih fun core hmem => h core (List.mem_cons_of_mem _ hmem)
    refine (hcore.bind fun e => hrest.bind fun es => emits_pure (e :: es)).mono
      fun full entries hentries => ?_
    obtain ⟨e, he, es, hes, rfl⟩ := hentries
    exact .cons he hes

/-- Splits in front of a last branch lead to it, or to one of those before it. -/
theorem emits_splits (next : Nat) (before : List Nat) (last : Nat) :
    Emits (before.foldlM (fun second first => emit (.split first second)) last)
      fun full entry => ∀ (S : Spot → Spot → Prop) (cores : List Core), Leads full last next S →
        List.Forall₂ (fun core entry => Leads full entry next core.Reads) cores before →
          Leads full entry next fun s t => Core.ReadsAny cores.reverse s t ∨ S s t := by
  induction before generalizing last with
  | nil =>
    refine (emits_pure last).mono fun full entry hentry S cores hS hcores => ?_
    obtain rfl : entry = last := hentry
    cases hcores
    exact hS.congr fun s t => (false_or _).symm ▸ Iff.rfl
  | cons first before ih =>
    rw [List.foldlM_cons]
    refine ((emits_emit (.split first last)).bind fun e => ih e).mono
      fun full entry hentry S cores hS hcores => ?_
    obtain ⟨e, hsplit, hentry⟩ := hentry
    cases hcores with
    | @cons core _ cores _ hcore hrest =>
      refine (hentry _ cores (leads_split hsplit hcore hS) hrest).congr fun s t => ?_
      rw [List.reverse_cons, Core.readsAny_append, or_assoc]
      exact or_congr Iff.rfl (or_congr (or_false _).symm.to_iff Iff.rfl)

/-- No character is in the empty set. -/
theorem readsOne_empty (s t : Spot) : ¬ReadsOne (CharSet.empty.contains ·) s t := by
  rintro ⟨c, cs, -, hc, -⟩
  cases hc

/-- The first of some branches, or the second, and so on. -/
def chooseFrom (next : Nat) : List Nat → Assembly Nat
  | [] => emit (.read .empty next)
  | last :: before => before.foldlM (fun second first => emit (.split first second)) last

theorem oneOfParts_eq (parts : List Part) (next : Nat) :
    oneOfParts parts next = (do
      let entries ← parts.mapM fun part => part next
      chooseFrom next entries.reverse) := by
  unfold oneOfParts
  refine bind_congr fun entries => ?_
  cases entries.reverse <;> rfl

theorem emits_chooseFrom (next : Nat) (entries : List Nat) :
    Emits (chooseFrom next entries) fun full entry => ∀ cores,
      List.Forall₂ (fun core entry => Leads full entry next core.Reads) cores entries →
        Leads full entry next (Core.ReadsAny cores.reverse) := by
  cases entries with
  | nil =>
    refine (emits_emit (.read .empty next)).mono fun full entry hread cores hcores => ?_
    cases hcores
    exact (leads_read hread).congr fun s t => iff_of_false (readsOne_empty s t) id
  | cons last before =>
    refine (emits_splits next before last).mono fun full entry hentry cores hcores => ?_
    cases hcores with
    | @cons core _ cores _ hcore hrest =>
      refine (hentry _ cores hcore hrest).congr fun s t => ?_
      rw [List.reverse_cons, Core.readsAny_append]
      exact or_congr Iff.rfl (or_false _).symm.to_iff

theorem assembles_choice {cores : List Core} (h : ∀ core ∈ cores, Assembles core.assemble core.Reads) :
    Assembles (Core.choice cores).assemble (Core.ReadsAny cores) := by
  intro next
  rw [Core.assemble, Core.assembleAll_eq, List.append_nil, List.reverse_reverse, oneOfParts_eq]
  refine ((emits_mapM h next).bind fun entries => emits_chooseFrom next entries.reverse).mono
    fun full entry hentry => ?_
  obtain ⟨entries, hentries, hentry⟩ := hentry
  have hleads := hentry cores.reverse (List.forall₂_reverse_iff.2 hentries)
  rwa [List.reverse_reverse] at hleads

mutual

/-- **The code of a meaning leads on over what it reads.** -/
theorem assembles_core (core : Core) : Assembles core.assemble core.Reads := by
  cases core with
  | nothing => exact assembles_pure
  | literal cs => exact assembles_literal cs
  | oneOf set => exact assembles_emit fun _ _ _ => leads_read
  | require condition => exact assembles_emit fun _ _ _ => leads_require
  | repeated body min max greedy => exact assembles_repeated (assembles_core body) _ _ _ _
  | group index body =>
    have hnote (slot : Nat) : Assembles (fun next => emit (.note slot next)) fun s t => t = s :=
      assembles_emit fun _ _ _ => leads_note
    refine ((hnote (2 * index)).bind ((assembles_core body).bind (hnote (2 * index + 1)))).congr
      fun s t => ?_
    constructor
    · rintro ⟨q, rfl, r, hbody, rfl⟩
      exact hbody
    · exact fun hbody => ⟨s, rfl, t, hbody, rfl⟩
  | sequence parts => exact assembles_sequence (assembles_cores parts)
  | choice branches => exact assembles_choice (assembles_cores branches)

theorem assembles_cores (cores : List Core) :
    ∀ core ∈ cores, Assembles core.assemble core.Reads := by
  cases cores with
  | nil => exact fun _ hmem => by cases hmem
  | cons first rest =>
    have hfirst := assembles_core first
    have hrest := assembles_cores rest
    intro core hmem
    rcases List.mem_cons.1 hmem with rfl | hmem
    · exact hfirst
    · exact hrest core hmem

end

/-! ## Programs -/

/-- The program notes where it starts, reads what the pattern means, and notes where it stops. -/
theorem emits_whole (core : Core) :
    Emits ((Core.group 0 core).assemble 0) fun full entry => ∃ inner outer,
      full[entry]? = some (.note 0 inner) ∧ Leads full inner outer core.Reads ∧
        full[outer]? = some (.note 1 0) := by
  refine (((emits_emit (.note 1 0)).bind fun outer => assembles_core core outer).bind fun inner =>
    emits_emit (.note 0 inner)).mono fun full entry hentry => ?_
  obtain ⟨inner, ⟨outer, houter, hleads⟩, hinner⟩ := hentry
  exact ⟨inner, outer, hinner, hleads, houter⟩

section Whole

variable (core : Core)

theorem code_ofCore :
    ∃ inner outer, (Program.ofCore core).code[(Program.ofCore core).entry]? = some (.note 0 inner) ∧
      Leads (Program.ofCore core).code inner outer core.Reads ∧
        (Program.ofCore core).code[outer]? = some (.note 1 0) :=
  (emits_whole core).holds #[.accept] _ fun _ _ _ => rfl

theorem accept_ofCore : (Program.ofCore core).code[0]? = some .accept :=
  (emits_whole core).keeps #[.accept] (Nat.lt_succ_self 0)

variable {core} {s t : Spot}

/-- Behind a match there is no step. -/
theorem Path.eq_of_accept {code : Code} {n : Nat} {u v : Thread} (h : Path code n u s v t)
    (hu : code[u.instruction]? = some .accept) : v = u ∧ t = s := by
  cases h with
  | stop => exact ⟨rfl, rfl⟩
  | go hmoves =>
    cases hmoves with
    | read _ h' | require _ h' | note _ h' | first _ h' | second _ h' => cases hu.symm.trans h'

/-- **A program comes to a match over what its pattern reads,** -/
theorem exists_path (h : core.Reads s t) :
    ∃ n u, Path (Program.ofCore core).code n ⟨(Program.ofCore core).entry, []⟩ s u t ∧
      Matched (Program.ofCore core).code u := by
  obtain ⟨inner, outer, hentry, hleads, houter⟩ := code_ofCore core
  obtain ⟨n, notes, hpath⟩ := hleads.there h [(0, s)]
  have hlast : Path (Program.ofCore core).code 1 ⟨outer, notes⟩ t ⟨0, (1, t) :: notes⟩ t :=
    .go (.note notes houter) (.stop _ _)
  exact ⟨_, _, .go (.note [] hentry) (hpath.trans hlast), accept_ofCore core⟩

/-- and over nothing else. It has noted where the match starts and stops. -/
theorem reads_of_path {n : Nat} {notes : Notes} {u : Thread}
    (h : Path (Program.ofCore core).code n ⟨(Program.ofCore core).entry, notes⟩ s u t)
    (hmatched : Matched (Program.ofCore core).code u) :
    core.Reads s t ∧ (0, s) ∈ u.notes ∧ (1, t) ∈ u.notes := by
  obtain ⟨inner, outer, hentry, hleads, houter⟩ := code_ofCore core
  obtain ⟨m, v, r, -, hmoves, hinner⟩ := h.step hentry (fun h => by cases h) hmatched
  obtain ⟨rfl, rfl⟩ := (moves_note hentry).1 hmoves
  obtain ⟨k, r', notes', -, hreads, hsuffix, hrest⟩ := hleads.only hinner hmatched
  obtain ⟨l, v, r'', -, hmoves', hend⟩ := hrest.step houter (fun h => by cases h) hmatched
  obtain ⟨rfl, rfl⟩ := (moves_note houter).1 hmoves'
  obtain ⟨rfl, rfl⟩ := hend.eq_of_accept (accept_ofCore core)
  exact ⟨hreads, List.mem_cons_of_mem _ (hsuffix.subset List.mem_cons_self), List.mem_cons_self⟩

end Whole

end Pattern

end Switchboard
