import Mathlib.Data.List.TakeWhile
import Switchboard.Pattern.Basic
import Switchboard.Proofs.Pattern.Assembly
/-!
# Searching finds what there is

A search has a match if and only if the meaning reads something from some place on
(`find?_isSome_iff`). What a thread has noted it has noted on a path (`Honest`), and no instruction
that can be reached is left out, though none is entered twice (`Settled`).
-/

namespace Switchboard

namespace Pattern

namespace Program

variable {p : Program} {spot : Spot}

/-! ## Entering -/

/-- The threads that a thread can become without reading, the preferred one first. -/
def turns (p : Program) (spot : Spot) (t : Thread) : List Thread :=
  match p.code[t.instruction]? with
  | some (.require condition next) =>
    if condition.holds spot.before spot.rest.head? then [⟨next, t.notes⟩] else []
  | some (.note slot next) => [⟨next, (slot, spot) :: t.notes⟩]
  | some (.split first second) => [⟨first, t.notes⟩, ⟨second, t.notes⟩]
  | _ => []

/-- Whether a thread waits, for a character or as a match. -/
def waits (p : Program) (t : Thread) : Bool :=
  match p.code[t.instruction]? with
  | some .accept => true
  | some (.read _ _) => true
  | _ => false

/-- The front when a thread has been entered. -/
def entering (p : Program) (spot : Spot) (t : Thread) (front : Front) : Front :=
  ⟨front.entered.setIfInBounds t.instruction (spot.index + 1),
    if p.waits t then t :: front.threads else front.threads⟩

theorem enter_nil (n : Nat) (front : Front) : p.enter spot n [] front = front := by
  cases n <;> rfl

section Enter

variable {t : Thread} {rest : List Thread} {front : Front}

/-- An instruction is not entered twice. -/
theorem enter_of_entered (n : Nat) (h : front.entered[t.instruction]? = some (spot.index + 1)) :
    p.enter spot (n + 1) (t :: rest) front = p.enter spot n rest front := by
  rw [enter, if_pos h]

theorem enter_of_new (n : Nat) (h : front.entered[t.instruction]? ≠ some (spot.index + 1)) :
    p.enter spot (n + 1) (t :: rest) front =
      p.enter spot n (p.turns spot t ++ rest) (p.entering spot t front) := by
  rw [enter, if_neg h]
  unfold entering turns waits
  dsimp only
  cases p.code[t.instruction]? with
  | none => rfl
  | some i =>
    cases i with
    | accept => rfl
    | read set next => rfl
    | require condition next =>
      dsimp only
      split
      · rfl
      · rfl
    | note slot next => rfl
    | split first second => rfl

end Enter

/-- A step without reading. -/
theorem mem_turns {t v : Thread} : v ∈ p.turns spot t ↔ Moves p.code t spot v spot := by
  obtain ⟨pc, notes⟩ := t
  unfold turns
  cases hcode : p.code[pc]? with
  | none =>
    refine iff_of_false (fun h => by cases h) fun h => ?_
    cases h with
    | read _ h' | require _ h' | note _ h' | first _ h' | second _ h' => cases hcode.symm.trans h'
  | some i =>
    cases i with
    | accept =>
      refine iff_of_false (fun h => by cases h) fun h => ?_
      cases h with
      | read _ h' | require _ h' | note _ h' | first _ h' | second _ h' =>
        cases hcode.symm.trans h'
    | read set next =>
      rw [moves_read hcode]
      refine iff_of_false (fun h => by cases h) ?_
      rintro ⟨-, c, cs, -, -, heq⟩
      exact absurd (congrArg Spot.index heq) (Nat.ne_of_lt (Nat.lt_succ_self _))
    | require condition next =>
      rw [moves_require hcode]
      dsimp only
      split
      · next hholds => simp [hholds]
      · next hholds => simp [hholds]
    | note slot next =>
      rw [moves_note hcode]
      simp
    | split first second =>
      rw [moves_split hcode]
      simp

theorem waits_iff {t : Thread} : p.waits t = true ↔ p.code[t.instruction]? = some .accept ∨
    ∃ set next, p.code[t.instruction]? = some (.read set next) := by
  unfold waits
  cases p.code[t.instruction]? with
  | none => simp
  | some i => cases i <;> simp

theorem length_turns_le (t : Thread) : (p.turns spot t).length ≤ 2 := by
  unfold turns
  cases p.code[t.instruction]? with
  | none => exact Nat.zero_le _
  | some i =>
    cases i with
    | accept => exact Nat.zero_le _
    | read set next => exact Nat.zero_le _
    | require condition next =>
      dsimp only
      split
      · exact Nat.le_succ 1
      · exact Nat.zero_le _
    | note slot next => exact Nat.le_succ 1
    | split first second => exact Nat.le_refl 2

/-! ## Threads on paths -/

/-- A path leads to the thread from where a search can start. -/
def Honest (p : Program) (Start : Spot → Prop) (t : Thread) (s : Spot) : Prop :=
  ∃ s₀ n, Start s₀ ∧ Path p.code n ⟨p.entry, []⟩ s₀ t s

section Honest

variable {Start : Spot → Prop} {t v : Thread} {s r : Spot}

theorem honest_entry (h : Start s) : Honest p Start ⟨p.entry, []⟩ s := ⟨s, 0, h, .stop _ _⟩

theorem Honest.moves (h : Honest p Start t s) (hmoves : Moves p.code t s v r) :
    Honest p Start v r := by
  obtain ⟨s₀, n, hstart, hpath⟩ := h
  exact ⟨s₀, n + 1, hstart, hpath.trans (.go hmoves (.stop _ _))⟩

theorem honest_enter {stack : List Thread} {front : Front} (n : Nat)
    (hstack : ∀ t ∈ stack, Honest p Start t spot)
    (hfront : ∀ t ∈ front.threads, Honest p Start t spot) :
    ∀ t ∈ (p.enter spot n stack front).threads, Honest p Start t spot := by
  induction n generalizing stack front with
  | zero => exact hfront
  | succ n ih =>
    cases stack with
    | nil => exact hfront
    | cons u rest =>
      have hu := hstack u List.mem_cons_self
      have hrest : ∀ t ∈ rest, Honest p Start t spot :=
        fun t hmem => hstack t (List.mem_cons_of_mem _ hmem)
      by_cases hentered : front.entered[u.instruction]? = some (spot.index + 1)
      · rw [enter_of_entered n hentered]
        exact ih hrest hfront
      · rw [enter_of_new n hentered]
        refine ih (fun t hmem => ?_) fun t hmem => ?_
        · rcases List.mem_append.1 hmem with hmem | hmem
          · exact hu.moves (mem_turns.1 hmem)
          · exact hrest t hmem
        · unfold entering at hmem
          split at hmem
          · rcases List.mem_cons.1 hmem with rfl | hmem
            · exact hu
            · exact hfront t hmem
          · exact hfront t hmem

end Honest

/-! ## Instructions that are entered -/

/-- The instruction has been entered at the place. -/
def Entered (spot : Spot) (front : Front) (pc : Nat) : Prop :=
  front.entered[pc]? = some (spot.index + 1)

/-- What can be reached without reading from what has been entered at a place has been entered as
well, or it is pending; and threads wait where they can. -/
structure Settled (p : Program) (spot : Spot) (pending : List Thread) (front : Front) : Prop where
  size : front.entered.size = p.code.size
  bound : ∀ v ∈ front.entered, v ≤ spot.index + 1
  waits (t : Thread) (h : Entered spot front t.instruction) (hwaits : p.waits t = true) :
    ∃ u ∈ front.threads, u.instruction = t.instruction
  turns (t v : Thread) (h : Entered spot front t.instruction) (hv : v ∈ p.turns spot t)
    (hsize : v.instruction < p.code.size) :
    Entered spot front v.instruction ∨ ∃ u ∈ pending, u.instruction = v.instruction

theorem waits_congr {t u : Thread} (h : t.instruction = u.instruction) : p.waits t = p.waits u := by
  unfold waits
  rw [h]

/-- Where threads go on from an instruction is the same for all of them. -/
theorem turns_congr {t u : Thread} (h : t.instruction = u.instruction) :
    (p.turns spot t).map Thread.instruction = (p.turns spot u).map Thread.instruction := by
  unfold turns
  rw [h]
  cases p.code[u.instruction]? with
  | none => rfl
  | some i =>
    cases i with
    | require condition next =>
      dsimp only
      split
      · rfl
      · rfl
    | accept | read set next | note slot next | split first second => rfl

theorem exists_turn {t u v : Thread} (h : t.instruction = u.instruction)
    (hv : v ∈ p.turns spot t) : ∃ w ∈ p.turns spot u, w.instruction = v.instruction :=
  List.mem_map.1 (turns_congr h ▸ List.mem_map_of_mem hv)

/-- How many instructions have not been entered at the place. -/
def unentered (spot : Spot) (front : Front) : Nat :=
  front.entered.countP fun v => v != spot.index + 1

section EnterOne

variable {t : Thread} {rest : List Thread} {front : Front}

theorem entered_entering_iff {pc : Nat} (h : t.instruction < front.entered.size) :
    Entered spot (p.entering spot t front) pc ↔ pc = t.instruction ∨ Entered spot front pc := by
  unfold Entered entering
  rw [Array.getElem?_setIfInBounds]
  split
  · next heq =>
    subst heq
    exact iff_of_true rfl (.inl rfl)
  · next hne => exact (or_iff_right (Ne.symm hne)).symm

theorem unentered_entering (h : t.instruction < front.entered.size)
    (hnew : ¬Entered spot front t.instruction) :
    unentered spot (p.entering spot t front) + 1 = unentered spot front := by
  have hne : (front.entered[t.instruction] != spot.index + 1) = true := by
    rw [bne_iff_ne]
    intro heq
    refine hnew ?_
    rw [Entered, Array.getElem?_eq_getElem h, heq]
  unfold unentered entering
  dsimp only
  rw [Array.setIfInBounds, dif_pos h, Array.countP_set, if_pos hne, if_neg (by simp)]
  have hpos : 0 < front.entered.countP fun v => v != spot.index + 1 :=
    Array.countP_pos_iff.2 ⟨_, Array.getElem_mem h, hne⟩
  omega

theorem Settled.entered (h : Settled p spot (t :: rest) front)
    (hentered : Entered spot front t.instruction) : Settled p spot rest front :=
  ⟨h.size, h.bound, h.waits, fun u v hu hv hsize => by
    rcases h.turns u v hu hv hsize with hv' | ⟨w, hw, heq⟩
    · exact .inl hv'
    · rcases List.mem_cons.1 hw with rfl | hw
      · exact .inl (heq ▸ hentered)
      · exact .inr ⟨w, hw, heq⟩⟩

/-- When a thread is entered, what it can become is pending. -/
theorem Settled.entering (h : Settled p spot (t :: rest) front)
    (hsize : t.instruction < p.code.size) :
    Settled p spot (p.turns spot t ++ rest) (p.entering spot t front) := by
  have hlt : t.instruction < front.entered.size := h.size ▸ hsize
  refine ⟨?_, ?_, ?_, ?_⟩
  · exact Array.size_setIfInBounds.trans h.size
  · intro v hv
    rcases Array.mem_or_eq_of_mem_setIfInBounds hv with hv | rfl
    · exact h.bound v hv
    · exact Nat.le_refl _
  · intro u hu hwaits
    rcases (entered_entering_iff hlt).1 hu with heq | hu
    · refine ⟨t, ?_, heq.symm⟩
      unfold Program.entering
      rw [if_pos ((waits_congr heq).symm.trans hwaits)]
      exact List.mem_cons_self
    · obtain ⟨w, hw, heq⟩ := h.waits u hu hwaits
      refine ⟨w, ?_, heq⟩
      unfold Program.entering
      dsimp only
      split
      · exact List.mem_cons_of_mem _ hw
      · exact hw
  · intro u v hu hv hv'
    rcases (entered_entering_iff hlt).1 hu with heq | hu
    · obtain ⟨w, hw, heq'⟩ := exists_turn heq hv
      exact .inr ⟨w, List.mem_append_left _ hw, heq'⟩
    · rcases h.turns u v hu hv hv' with hentered | ⟨w, hw, heq⟩
      · exact .inl ((entered_entering_iff hlt).2 (.inr hentered))
      · rcases List.mem_cons.1 hw with rfl | hw
        · exact .inl ((entered_entering_iff hlt).2 (.inl heq.symm))
        · exact .inr ⟨w, List.mem_append_right _ hw, heq⟩

/-- Where there is no instruction, nothing is entered. -/
theorem entering_outside (h : front.entered.size = p.code.size)
    (hsize : ¬t.instruction < p.code.size) :
    p.entering spot t front = front ∧ p.turns spot t = [] := by
  have hnone : p.code[t.instruction]? = none := Array.getElem?_eq_none (Nat.not_lt.1 hsize)
  unfold entering Program.turns Program.waits
  rw [hnone, Array.setIfInBounds_eq_of_size_le (h ▸ Nat.not_lt.1 hsize)]
  exact ⟨rfl, rfl⟩

theorem Settled.outside (h : Settled p spot (t :: rest) front)
    (hsize : ¬t.instruction < p.code.size) : Settled p spot rest front :=
  ⟨h.size, h.bound, h.waits, fun u v hu hv hv' => by
    rcases h.turns u v hu hv hv' with hentered | ⟨w, hw, heq⟩
    · exact .inl hentered
    · rcases List.mem_cons.1 hw with rfl | hw
      · exact absurd (heq ▸ hv') hsize
      · exact .inr ⟨w, hw, heq⟩⟩

end EnterOne

/-- What has been entered stays so, and no thread is lost. -/
structure Extends (spot : Spot) (front front' : Front) : Prop where
  entered {pc : Nat} (h : Entered spot front pc) : Entered spot front' pc
  threads {t : Thread} (h : t ∈ front.threads) : t ∈ front'.threads

theorem Extends.refl (front : Front) : Extends spot front front := ⟨id, id⟩

theorem Extends.trans {front front' front'' : Front} (h : Extends spot front front')
    (h' : Extends spot front' front'') : Extends spot front front'' :=
  ⟨fun hpc => h'.entered (h.entered hpc), fun ht => h'.threads (h.threads ht)⟩

theorem extends_entering {front : Front} (t : Thread) :
    Extends spot front (p.entering spot t front) where
  entered {pc} h := by
    unfold Entered entering at *
    rw [Array.getElem?_setIfInBounds]
    split
    · next heq =>
      subst heq
      rw [if_pos (Array.getElem?_eq_some_iff.1 h).1]
    · exact h
  threads h := by
    unfold entering
    dsimp only
    split
    · exact List.mem_cons_of_mem _ h
    · exact h

/-- **Entering leaves nothing out,** if it may go on for long enough. -/
theorem Settled.enter {n : Nat} {stack : List Thread} {front : Front}
    (h : Settled p spot stack front) (hfuel : stack.length + 2 * unentered spot front ≤ n) :
    Settled p spot [] (p.enter spot n stack front) ∧
      Extends spot front (p.enter spot n stack front) ∧
        ∀ t ∈ stack, t.instruction < p.code.size →
          Entered spot (p.enter spot n stack front) t.instruction := by
  induction n generalizing stack front with
  | zero =>
    obtain rfl : stack = [] := List.eq_nil_of_length_eq_zero (by omega)
    exact ⟨h, .refl _, fun _ hmem => by cases hmem⟩
  | succ n ih =>
    cases stack with
    | nil =>
      rw [enter_nil]
      exact ⟨h, .refl _, fun _ hmem => by cases hmem⟩
    | cons t rest =>
      rw [List.length_cons] at hfuel
      by_cases hentered : Entered spot front t.instruction
      · rw [enter_of_entered n hentered]
        obtain ⟨hsettled, hextends, hrest⟩ := ih (h.entered hentered) (by omega)
        refine ⟨hsettled, hextends, fun u hu hsize => ?_⟩
        rcases List.mem_cons.1 hu with rfl | hu
        · exact hextends.entered hentered
        · exact hrest u hu hsize
      · rw [enter_of_new n hentered]
        by_cases hsize : t.instruction < p.code.size
        · -- Two threads at most are added for an instruction that is entered for the first time.
          have hlt : t.instruction < front.entered.size := h.size ▸ hsize
          have hcount : unentered spot (p.entering spot t front) + 1 = unentered spot front :=
            unentered_entering hlt hentered
          have hlength : (p.turns spot t ++ rest).length ≤ 2 + rest.length := by
            rw [List.length_append]
            exact Nat.add_le_add_right (length_turns_le t) _
          obtain ⟨hsettled, hextends, hrest⟩ := ih (h.entering hsize) (by omega)
          refine ⟨hsettled, (extends_entering t).trans hextends, fun u hu hsize => ?_⟩
          rcases List.mem_cons.1 hu with rfl | hu
          · exact hextends.entered ((entered_entering_iff hlt).2 (.inl rfl))
          · exact hrest u (List.mem_append_right _ hu) hsize
        · obtain ⟨hsame, hturns⟩ : p.entering spot t front = front ∧ p.turns spot t = [] :=
            entering_outside h.size hsize
          rw [hsame, hturns, List.nil_append]
          obtain ⟨hsettled, hextends, hrest⟩ := ih (h.outside hsize) (by omega)
          refine ⟨hsettled, hextends, fun u hu husize => ?_⟩
          rcases List.mem_cons.1 hu with rfl | hu
          · exact absurd husize hsize
          · exact hrest u hu husize

/-- The steps that a program may make at a place are enough. -/
theorem Settled.enter_one {t : Thread} {front : Front} (h : Settled p spot [] front) :
    Settled p spot [] (p.enter spot p.enterFuel [t] front) ∧
      Extends spot front (p.enter spot p.enterFuel [t] front) ∧
        (t.instruction < p.code.size →
          Entered spot (p.enter spot p.enterFuel [t] front) t.instruction) := by
  have hpending : Settled p spot [t] front :=
    ⟨h.size, h.bound, h.waits, fun u v hu hv hsize => by
      rcases h.turns u v hu hv hsize with hentered | ⟨w, hw, -⟩
      · exact .inl hentered
      · cases hw⟩
  have hcount : unentered spot front ≤ p.code.size := h.size ▸ Array.countP_le_size
  obtain ⟨hsettled, hextends, hentered⟩ := hpending.enter (n := p.enterFuel) (by
    rw [enterFuel, List.length_singleton]
    omega)
  exact ⟨hsettled, hextends, hentered t List.mem_cons_self⟩

/-! ## Instructions that lead to a match -/

/-- From the instruction, at the place, a match can be had. -/
def Winning (p : Program) (pc : Nat) (s : Spot) : Prop :=
  ∃ n notes u t, Path p.code n ⟨pc, notes⟩ s u t ∧ Matched p.code u

section Winning

variable {pc : Nat} {s : Spot} {front : Front}

theorem Winning.lt_size (h : Winning p pc s) : pc < p.code.size := by
  obtain ⟨n, notes, u, t, hpath, hmatched⟩ := h
  cases hpath with
  | stop => exact (Array.getElem?_eq_some_iff.1 hmatched).1
  | go hmoves =>
    cases hmoves with
    | read _ h' | require _ h' | note _ h' | first _ h' | second _ h' =>
      exact (Array.getElem?_eq_some_iff.1 h').1

theorem accepts_iff {t : Thread} : p.accepts t = true ↔ Matched p.code t := by
  unfold accepts Matched
  cases p.code[t.instruction]? with
  | none => simp
  | some i => cases i <;> simp

/-- **A match that can be had is had,** or it waits for the next character. -/
theorem exists_waiting (h : Settled p spot [] front) (hentered : Entered spot front pc)
    (hwinning : Winning p pc spot) :
    ∃ v ∈ front.threads, p.accepts v = true ∨ ∃ set next c cs,
      p.code[v.instruction]? = some (.read set next) ∧ spot.rest = c :: cs ∧
        set.contains c = true ∧ Winning p next ⟨spot.index + 1, some c, cs⟩ := by
  obtain ⟨n, notes, u, t, hpath, hmatched⟩ := hwinning
  induction n generalizing pc notes with
  | zero =>
    cases hpath with
    | stop =>
      obtain ⟨v, hv, heq⟩ := h.waits _ hentered (waits_iff.2 (.inl hmatched))
      exact ⟨v, hv, .inl (accepts_iff.2 (by rwa [Matched, heq]))⟩
  | succ n ih =>
    cases hpath with
    | @go _ _ v _ _ r _ hmoves hrest =>
      by_cases hsame : r = spot
      · -- The path goes on at the same place, where nothing that can be reached is left out.
        subst hsame
        have hlt : v.instruction < p.code.size := Winning.lt_size ⟨n, v.notes, u, t, hrest, hmatched⟩
        rcases h.turns _ v hentered (mem_turns.2 hmoves) hlt with hv | ⟨w, hw, -⟩
        · exact ih hv v.notes hrest
        · cases hw
      · cases hmoves with
        | @read _ next set _ _ _ hcode hread =>
          obtain ⟨c, cs, hcs, hc, rfl⟩ := hread
          have hwaits : p.waits ⟨pc, notes⟩ = true := waits_iff.2 (.inr ⟨set, next, hcode⟩)
          obtain ⟨v, hv, heq⟩ := h.waits ⟨pc, notes⟩ hentered hwaits
          exact ⟨v, hv, .inr ⟨set, next, c, cs, heq ▸ hcode, hcs, hc, n, notes, u, t, hrest,
            hmatched⟩⟩
        | require _ _ _ => exact absurd rfl hsame
        | note _ _ => exact absurd rfl hsame
        | first _ _ => exact absurd rfl hsame
        | second _ _ => exact absurd rfl hsame

end Winning

/-! ## Reading a character -/

section Step

variable {c : Char} {cs : List Char} {threads : List Thread} {front : Front}

theorem step_read {t : Thread} {set : CharSet} {next : Nat}
    (h : p.code[t.instruction]? = some (.read set next)) (hc : set.contains c = true) :
    p.step c spot front t = p.enter spot p.enterFuel [⟨next, t.notes⟩] front := by
  unfold step
  rw [h]
  dsimp only
  rw [if_pos hc]

/-- A thread that reads the character is entered behind it, and no other is. -/
theorem step_cases (c : Char) (spot : Spot) (front : Front) (t : Thread) :
    p.step c spot front t = front ∨ ∃ set next, p.code[t.instruction]? = some (.read set next) ∧
      set.contains c = true ∧
        p.step c spot front t = p.enter spot p.enterFuel [⟨next, t.notes⟩] front := by
  cases hcode : p.code[t.instruction]? with
  | none =>
    refine .inl ?_
    unfold step
    rw [hcode]
  | some i =>
    cases i with
    | read set next =>
      by_cases hc : set.contains c = true
      · exact .inr ⟨set, next, rfl, hc, step_read hcode hc⟩
      · refine .inl ?_
        unfold step
        rw [hcode]
        dsimp only
        rw [if_neg hc]
    | accept | require _ _ | note _ _ | split _ _ =>
      refine .inl ?_
      unfold step
      rw [hcode]

theorem Settled.step (h : Settled p spot [] front) (t : Thread) :
    Settled p spot [] (p.step c spot front t) ∧ Extends spot front (p.step c spot front t) := by
  rcases step_cases (p := p) c spot front t with heq | ⟨set, next, -, -, heq⟩
  · rw [heq]
    exact ⟨h, .refl _⟩
  · rw [heq]
    obtain ⟨hsettled, hextends, -⟩ := h.enter_one (t := ⟨next, t.notes⟩)
    exact ⟨hsettled, hextends⟩

/-- After a character, the instructions behind those that read it have been entered. -/
theorem Settled.foldl_step (h : Settled p spot [] front) (c : Char) (threads : List Thread) :
    Settled p spot [] (threads.foldl (p.step c spot) front) ∧
      Extends spot front (threads.foldl (p.step c spot) front) ∧
        ∀ t ∈ threads, ∀ set next, p.code[t.instruction]? = some (.read set next) →
          set.contains c = true → next < p.code.size →
            Entered spot (threads.foldl (p.step c spot) front) next := by
  induction threads generalizing front with
  | nil => exact ⟨h, .refl _, fun _ hmem => by cases hmem⟩
  | cons t rest ih =>
    obtain ⟨hstep, hextends⟩ := h.step (c := c) t
    obtain ⟨hsettled, hextends', hrest⟩ := ih hstep
    refine ⟨hsettled, hextends.trans hextends', fun u hu set next hcode hc hsize => ?_⟩
    rcases List.mem_cons.1 hu with rfl | hu
    · obtain ⟨-, -, hentered⟩ := h.enter_one (t := ⟨next, u.notes⟩)
      exact hextends'.entered (step_read hcode hc ▸ hentered hsize)
    · exact hrest u hu set next hcode hc hsize

theorem honest_foldl_step {Start : Spot → Prop} (hrest : spot.rest = c :: cs)
    (hthreads : ∀ t ∈ threads, Honest p Start t spot)
    (hfront : ∀ t ∈ front.threads, Honest p Start t ⟨spot.index + 1, some c, cs⟩) :
    ∀ t ∈ (threads.foldl (p.step c ⟨spot.index + 1, some c, cs⟩) front).threads,
      Honest p Start t ⟨spot.index + 1, some c, cs⟩ := by
  induction threads generalizing front with
  | nil => exact hfront
  | cons t rest ih =>
    refine ih (fun u hu => hthreads u (List.mem_cons_of_mem _ hu)) ?_
    rcases step_cases (p := p) c ⟨spot.index + 1, some c, cs⟩ front t with
      heq | ⟨set, next, hcode, hc, heq⟩
    · rwa [heq]
    · rw [heq]
      refine honest_enter _ (fun u hu => ?_) hfront
      obtain rfl := List.mem_singleton.1 hu
      exact (hthreads t List.mem_cons_self).moves (.read t.notes hcode ⟨c, cs, hrest, hc, rfl⟩)

end Step

/-! ## Searching -/

section Search

variable {index : Nat} {before : Option Char} {front : Front} {found : Option Notes}
  {rest : List Char}

/-- The threads at a place, with the one that starts there unless something is found. -/
def begun (p : Program) (spot : Spot) (front : Front) (found : Option Notes) : Front :=
  if found.isSome then front else p.enter spot p.enterFuel [⟨p.entry, []⟩] front

/-- What has been found with the threads at a place. -/
def foundBy (p : Program) (front : Front) (found : Option Notes) : Option Notes :=
  ((front.threads.reverse.find? p.accepts).map Thread.notes) <|> found

/-- The threads behind a character. -/
def readOn (p : Program) (c : Char) (next : Spot) (front : Front) : Front :=
  (front.threads.reverse.takeWhile (!p.accepts ·)).foldl (p.step c next) ⟨front.entered, []⟩

theorem searchFrom_cons (c : Char) (cs : List Char) :
    p.searchFrom index before front found (c :: cs) =
      let front := p.begun ⟨index, before, c :: cs⟩ front found
      let found := p.foundBy front found
      let front := p.readOn c ⟨index + 1, some c, cs⟩ front
      if found.isSome ∧ front.threads.isEmpty then found
      else p.searchFrom (index + 1) (some c) front found cs := rfl

theorem foundBy_isSome_of_found (h : found.isSome = true) : (p.foundBy front found).isSome = true := by
  unfold foundBy
  cases front.threads.reverse.find? p.accepts with
  | none => exact h
  | some t => rfl

theorem foundBy_isSome {t : Thread} (ht : t ∈ front.threads) (haccepts : p.accepts t = true) :
    (p.foundBy front found).isSome = true := by
  have hfind : (front.threads.reverse.find? p.accepts).isSome = true :=
    List.find?_isSome.2 ⟨t, List.mem_reverse.2 ht, haccepts⟩
  obtain ⟨u, hu⟩ := Option.isSome_iff_exists.1 hfind
  unfold foundBy
  rw [hu]
  rfl

/-- What is found is not lost. -/
theorem searchFrom_isSome_of_found (h : found.isSome = true) :
    (p.searchFrom index before front found rest).isSome = true := by
  induction rest generalizing index before front found with
  | nil => exact foundBy_isSome_of_found h
  | cons c cs ih =>
    rw [searchFrom_cons]
    dsimp only
    split
    · exact foundBy_isSome_of_found h
    · exact ih (foundBy_isSome_of_found h)

theorem accepts_eq_false_of_foundBy (h : p.foundBy front none = none) {t : Thread}
    (ht : t ∈ front.threads) : p.accepts t = false := by
  refine Bool.eq_false_iff.2 fun haccepts => ?_
  have hsome : (p.foundBy front none).isSome = true := foundBy_isSome ht haccepts
  rw [h] at hsome
  cases hsome

/-- Before anything has been entered at a place, nothing is left out there. -/
theorem settled_fresh {entered : Array Nat} (hsize : entered.size = p.code.size)
    (hbound : ∀ v ∈ entered, v ≤ spot.index) : Settled p spot [] ⟨entered, []⟩ := by
  refine ⟨hsize, fun v hv => Nat.le_succ_of_le (hbound v hv), fun t ht => ?_, fun t v ht => ?_⟩
  · exact absurd (hbound _ (Array.mem_of_getElem? ht)) (Nat.not_succ_le_self _)
  · exact absurd (hbound _ (Array.mem_of_getElem? ht)) (Nat.not_succ_le_self _)

/-- A match can be had from an instruction that has been entered at the place. -/
def WinsNow (p : Program) (spot : Spot) (front : Front) : Prop :=
  ∃ pc, Entered spot front pc ∧ Winning p pc spot

/-- A match can be had that starts at the place or behind it. -/
def WinsLater (p : Program) (spot : Spot) : Prop := ∃ s, spot.Ahead s ∧ Winning p p.entry s

/-- What can be had from the place on is entered there. -/
theorem winsNow_begun (h : Settled p spot [] front)
    (hmatch : WinsNow p spot front ∨ WinsLater p spot) :
    Settled p spot [] (p.begun spot front none) ∧ (WinsNow p spot (p.begun spot front none) ∨
      ∃ c cs, spot.rest = c :: cs ∧ WinsLater p ⟨spot.index + 1, some c, cs⟩) := by
  obtain ⟨hsettled, hextends, hentry⟩ := h.enter_one (t := ⟨p.entry, []⟩)
  refine ⟨hsettled, ?_⟩
  rcases hmatch with ⟨pc, hpc, hwinning⟩ | ⟨s, hahead, hwinning⟩
  · exact .inl ⟨pc, hextends.entered hpc, hwinning⟩
  · rcases Spot.ahead_iff.1 hahead with rfl | ⟨c, cs, hcs, hahead⟩
    · exact .inl ⟨p.entry, hentry hwinning.lt_size, hwinning⟩
    · exact .inr ⟨c, cs, hcs, s, hahead, hwinning⟩

/-- A match that is not had at a place can be had behind the next character. -/
theorem winsNow_readOn {c : Char} {cs : List Char} (h : Settled p spot [] front)
    (hnone : p.foundBy front none = none) (hrest : spot.rest = c :: cs) :
    Settled p ⟨spot.index + 1, some c, cs⟩ [] (p.readOn c ⟨spot.index + 1, some c, cs⟩ front) ∧
      (WinsNow p spot front → WinsNow p ⟨spot.index + 1, some c, cs⟩
        (p.readOn c ⟨spot.index + 1, some c, cs⟩ front)) := by
  have hnot {t : Thread} (ht : t ∈ front.threads) : p.accepts t = false :=
    accepts_eq_false_of_foundBy hnone ht
  have hthreads : front.threads.reverse.takeWhile (!p.accepts ·) = front.threads.reverse := by
    refine List.takeWhile_eq_self_iff.2 fun t ht => ?_
    rw [hnot (List.mem_reverse.1 ht), Bool.not_false]
  have hfresh : Settled p ⟨spot.index + 1, some c, cs⟩ [] ⟨front.entered, []⟩ :=
    settled_fresh h.size h.bound
  obtain ⟨hnext, -, hreads⟩ := hfresh.foldl_step c front.threads.reverse
  unfold readOn
  rw [hthreads]
  refine ⟨hnext, ?_⟩
  rintro ⟨pc, hpc, hwinning⟩
  obtain ⟨v, hv, haccepts | ⟨set, next, d, ds, hcode, hds, hd, hwinning⟩⟩ :=
    exists_waiting h hpc hwinning
  · rw [hnot hv] at haccepts
    cases haccepts
  · obtain ⟨rfl, rfl⟩ := List.cons.inj (hrest.symm.trans hds)
    exact ⟨next, hreads v (List.mem_reverse.2 hv) set next hcode hd hwinning.lt_size, hwinning⟩

/-- **A search finds a match that there is.** -/
theorem searchFrom_isSome (h : Settled p ⟨index, before, rest⟩ [] front)
    (hmatch : WinsNow p ⟨index, before, rest⟩ front ∨ WinsLater p ⟨index, before, rest⟩) :
    (p.searchFrom index before front none rest).isSome = true := by
  induction rest generalizing index before front with
  | nil =>
    obtain ⟨hsettled, ⟨pc, hpc, hwinning⟩ | ⟨c, cs, hcs, -⟩⟩ := winsNow_begun h hmatch
    · obtain ⟨v, hv, haccepts | ⟨-, -, c, cs, -, hcs, -⟩⟩ := exists_waiting hsettled hpc hwinning
      · exact foundBy_isSome hv haccepts
      · cases hcs
    · cases hcs
  | cons c cs ih =>
    obtain ⟨hsettled, hnow⟩ := winsNow_begun h hmatch
    rw [searchFrom_cons]
    dsimp only
    cases hfound : p.foundBy (p.begun ⟨index, before, c :: cs⟩ front none) none with
    | some notes =>
      split
      · rfl
      · exact searchFrom_isSome_of_found rfl
    | none =>
      rw [if_neg (fun hand => by cases hand.1)]
      obtain ⟨hnext, hwins⟩ := winsNow_readOn hsettled hfound rfl
      refine ih hnext ?_
      rcases hnow with hnow | ⟨d, ds, hds, hlater⟩
      · exact .inl (hwins hnow)
      · obtain ⟨rfl, rfl⟩ := List.cons.inj hds
        exact .inr hlater

/-! ### What is found -/

/-- The notes of a match that a path comes to. -/
def FoundOnPath (p : Program) (Start : Spot → Prop) (notes : Notes) : Prop :=
  ∃ u s, Honest p Start u s ∧ Matched p.code u ∧ u.notes = notes

theorem foundBy_eq_some {Start : Spot → Prop} {notes : Notes} {spot : Spot}
    (hfront : ∀ t ∈ front.threads, Honest p Start t spot)
    (hfound : ∀ notes, found = some notes → FoundOnPath p Start notes)
    (h : p.foundBy front found = some notes) : FoundOnPath p Start notes := by
  unfold foundBy at h
  cases hfind : front.threads.reverse.find? p.accepts with
  | none =>
    rw [hfind] at h
    exact hfound notes h
  | some u =>
    rw [hfind] at h
    have hmem : u ∈ front.threads := List.mem_reverse.1 (List.mem_of_find?_eq_some hfind)
    exact ⟨u, spot, hfront u hmem, accepts_iff.1 (List.find?_some hfind), Option.some.inj h⟩

theorem honest_begun {Start : Spot → Prop} {spot : Spot} (hstart : Start spot)
    (hfront : ∀ t ∈ front.threads, Honest p Start t spot) :
    ∀ t ∈ (p.begun spot front found).threads, Honest p Start t spot := by
  unfold begun
  split
  · exact hfront
  · refine honest_enter _ (fun t ht => ?_) hfront
    obtain rfl := List.mem_singleton.1 ht
    exact honest_entry hstart

/-- **A search finds no match that there is not.** -/
theorem searchFrom_eq_some {Start : Spot → Prop} {notes : Notes}
    (hstart : ∀ s, Spot.Ahead ⟨index, before, rest⟩ s → Start s)
    (hfront : ∀ t ∈ front.threads, Honest p Start t ⟨index, before, rest⟩)
    (hfound : ∀ notes, found = some notes → FoundOnPath p Start notes)
    (h : p.searchFrom index before front found rest = some notes) :
    FoundOnPath p Start notes := by
  induction rest generalizing index before front found with
  | nil => exact foundBy_eq_some (honest_begun (hstart _ (.refl _)) hfront) hfound h
  | cons c cs ih =>
    rw [searchFrom_cons] at h
    dsimp only at h
    have hbegun : ∀ t ∈ (p.begun ⟨index, before, c :: cs⟩ front found).threads,
        Honest p Start t ⟨index, before, c :: cs⟩ := honest_begun (hstart _ (.refl _)) hfront
    have hby (notes : Notes)
        (h : p.foundBy (p.begun ⟨index, before, c :: cs⟩ front found) found = some notes) :
        FoundOnPath p Start notes := foundBy_eq_some hbegun hfound h
    have hrest : (⟨index, before, c :: cs⟩ : Spot).rest = c :: cs := rfl
    split at h
    · exact hby notes h
    · refine ih (fun s hs => hstart s (Spot.ahead_iff.2 (.inr ⟨c, cs, rfl, hs⟩))) ?_ hby h
      unfold readOn
      refine honest_foldl_step hrest (fun t ht => ?_)
        fun t ht => by cases ht
      exact hbegun t (List.mem_reverse.1 (List.takeWhile_subset _ ht))

theorem search?_isSome_iff (p : Program) (s : Spot) :
    (p.search? s).isSome = true ↔ WinsLater p s := by
  constructor
  · intro h
    obtain ⟨notes, hnotes⟩ := Option.isSome_iff_exists.1 h
    have hfound : FoundOnPath p s.Ahead notes :=
      searchFrom_eq_some (fun _ => id) (fun t ht => by cases ht) (fun _ h => by cases h) hnotes
    obtain ⟨u, t, ⟨s₀, n, hahead, hpath⟩, hmatched, -⟩ := hfound
    exact ⟨s₀, hahead, n, [], u, t, hpath, hmatched⟩
  · intro hlater
    refine searchFrom_isSome (settled_fresh Array.size_replicate fun v hv => ?_) (.inr hlater)
    exact (Array.eq_of_mem_replicate hv).symm ▸ Nat.zero_le _

end Search

end Program

/-- **A pattern has a match from a place on if and only if what it means reads some text there or
behind it.** -/
theorem find?_isSome_iff (core : Core) (s : Spot) :
    ((ofProgram (.ofCore core)).find? s).isSome = true ↔ ∃ s₀ t, s.Ahead s₀ ∧ core.Reads s₀ t := by
  have hsearch : ((ofProgram (.ofCore core)).find? s).isSome =
      ((Program.ofCore core).search? s).isSome := by
    unfold find? ofProgram
    dsimp only
    cases hnotes : (Program.ofCore core).search? s with
    | none => rfl
    | some notes =>
      have hfound : (Program.ofCore core).FoundOnPath s.Ahead notes :=
        Program.searchFrom_eq_some (fun _ => id) (fun t ht => by cases ht)
          (fun _ h => by cases h) hnotes
      obtain ⟨u, t, ⟨s₀, n, -, hpath⟩, hmatched, rfl⟩ := hfound
      obtain ⟨-, hfirst, hlast⟩ := reads_of_path hpath hmatched
      obtain ⟨start, hstart⟩ := Option.isSome_iff_exists.1
        (List.lookup_isSome_iff.2 ⟨_, hfirst, beq_self_eq_true 0⟩)
      obtain ⟨stop, hstop⟩ := Option.isSome_iff_exists.1
        (List.lookup_isSome_iff.2 ⟨_, hlast, beq_self_eq_true 1⟩)
      simp [hstart, hstop]
  rw [hsearch, Program.search?_isSome_iff]
  constructor
  · rintro ⟨s₀, hahead, n, notes, u, t, hpath, hmatched⟩
    exact ⟨s₀, t, hahead, (reads_of_path hpath hmatched).1⟩
  · rintro ⟨s₀, t, hahead, hreads⟩
    obtain ⟨n, u, hpath, hmatched⟩ := exists_path hreads
    exact ⟨s₀, hahead, n, [], u, t, hpath, hmatched⟩

/-! ## All matches -/

theorem findNext?_false (q : Pattern) (s : Spot) : q.findNext? s false = q.find? s := by
  unfold findNext?
  cases q.find? s with
  | none => rfl
  | some m => simp

theorem findAllFrom_ne_nil {q : Pattern} {s : Spot} {before : List Match} (fuel : Nat)
    (h : before ≠ []) : q.findAllFrom fuel s before ≠ [] := by
  induction fuel generalizing s before with
  | zero => exact fun hnil => h (List.reverse_eq_nil_iff.1 hnil)
  | succ fuel ih =>
    rw [findAllFrom]
    split
    · exact fun hnil => h (List.reverse_eq_nil_iff.1 hnil)
    · exact ih (List.cons_ne_nil _ _)

theorem findAll_ne_nil_iff (q : Pattern) (text : String) :
    q.findAll text ≠ [] ↔ (q.find? (.start text.toList)).isSome = true := by
  unfold findAll
  rw [findAllFrom, List.isEmpty_nil, Bool.not_true, findNext?_false]
  cases q.find? (.start text.toList) with
  | none => exact iff_of_false (fun h => h rfl) (fun h => by cases h)
  | some m => exact iff_of_true (findAllFrom_ne_nil _ (List.cons_ne_nil _ _)) rfl

end Pattern

end Switchboard
