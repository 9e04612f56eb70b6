import Switchboard.Pattern.Meaning
import Switchboard.Pattern.Weight
import Switchboard.Proofs.Pattern.Language
import Switchboard.Proofs.Task.Success
/-!
# What is around a pattern takes room

Conditions in front of a pattern and behind it take as much room as they take by themselves
(`size_between`). For a sequence holds no part that is nothing, wherever it stands in what a pattern
means (`neat_core`), so that none is left out when conditions are put around it.
-/

namespace Switchboard

namespace Pattern

/-! ## Sequences without what is nothing -/

namespace Core

mutual

/-- No part of a sequence is nothing. -/
def Neat : Core → Prop
  | .sequence parts => AllNeat parts ∧ .nothing ∉ parts
  | .choice branches => AllNeat branches
  | _ => True

/-- Each of the meanings is neat. -/
def AllNeat : List Core → Prop
  | [] => True
  | core :: rest => core.Neat ∧ AllNeat rest

end

section Building

variable {core part : Core} {parts branches behind : List Core}

theorem allNeat_iff : AllNeat parts ↔ ∀ part ∈ parts, part.Neat := by
  induction parts with
  | nil => exact iff_of_true trivial fun _ h => by cases h
  | cons part rest ih => rw [AllNeat, List.forall_mem_cons, ih]

/-- The parts of a meaning, seen as a sequence, are neat, -/
theorem neat_partsOf (h : core.Neat) : ∀ part ∈ partsOf core, part.Neat := by
  cases core with
  | sequence parts => exact allNeat_iff.1 h.1
  | _ => exact List.forall_mem_singleton.2 h

/-- and none of them is nothing, unless the meaning is. -/
theorem nothing_notMem_partsOf (h : core.Neat) (hne : core ≠ .nothing) :
    .nothing ∉ partsOf core := by
  cases core with
  | sequence parts => exact h.2
  | _ => exact fun hmem => hne (List.mem_singleton.1 hmem).symm

theorem neat_branchesOf (h : core.Neat) : ∀ branch ∈ branchesOf core, branch.Neat := by
  cases core with
  | choice branches => exact allNeat_iff.1 h
  | _ => exact List.forall_mem_singleton.2 h

/-- What is nothing is left out of a sequence. -/
theorem neat_consPart (hpart : part.Neat) (h : ∀ core ∈ behind, core.Neat)
    (hnothing : .nothing ∉ behind) :
    (∀ core ∈ consPart part behind, core.Neat) ∧ .nothing ∉ consPart part behind := by
  fun_cases consPart part behind with
  | case1 => exact ⟨h, hnothing⟩
  | case2 cs ds rest =>
    obtain ⟨-, hrest⟩ := List.forall_mem_cons.1 h
    refine ⟨List.forall_mem_cons.2 ⟨trivial, hrest⟩, fun hmem => ?_⟩
    rcases List.mem_cons.1 hmem with heq | hmem
    · cases heq
    · exact hnothing (List.mem_cons_of_mem _ hmem)
  | case3 _ _ hne =>
    refine ⟨List.forall_mem_cons.2 ⟨hpart, h⟩, fun hmem => ?_⟩
    rcases List.mem_cons.1 hmem with heq | hmem
    · exact hne heq.symm
    · exact hnothing hmem

/-- By induction on the parts, which are put in front one by one. -/
theorem neat_foldr_consPart (h : ∀ core ∈ parts, core.Neat) :
    (∀ core ∈ parts.foldr consPart [], core.Neat) ∧ .nothing ∉ parts.foldr consPart [] := by
  induction parts with
  | nil => exact ⟨fun _ hmem => (by cases hmem), fun hmem => (by cases hmem)⟩
  | cons part rest ih =>
    obtain ⟨hpart, hrest⟩ := List.forall_mem_cons.1 h
    obtain ⟨hneat, hnothing⟩ := ih hrest
    exact neat_consPart hpart hneat hnothing

/-- **What is made of neat parts is neat:** those that are sequences are laid open, and those that
are nothing left out. -/
theorem neat_ofParts (h : ∀ part ∈ parts, part.Neat) : (ofParts parts).Neat := by
  have hflat : ∀ part ∈ parts.flatMap partsOf, part.Neat := by
    intro part hmem
    obtain ⟨core, hcore, hmem⟩ := List.mem_flatMap.1 hmem
    exact neat_partsOf (h core hcore) part hmem
  obtain ⟨hneat, hnothing⟩ := neat_foldr_consPart hflat
  unfold ofParts
  generalize (parts.flatMap partsOf).foldr consPart [] = joined at hneat hnothing
  cases joined with
  | nil => trivial
  | cons part rest =>
    cases rest with
    | nil => exact hneat part List.mem_cons_self
    | cons second rest => exact ⟨allNeat_iff.2 hneat, hnothing⟩

theorem neat_ofSet (set : CharSet) : (ofSet set).Neat := by
  unfold ofSet
  generalize set.ranges = ranges
  cases ranges with
  | nil => trivial
  | cons r rest =>
    cases rest with
    | nil =>
      change (if h : r.first = r.last ∧ r.first.isValidChar
        then Core.literal [Char.ofNatAux r.first h.2] else .oneOf set).Neat
      by_cases h : r.first = r.last ∧ r.first.isValidChar
      · rw [dif_pos h]
        trivial
      · rw [dif_neg h]
        trivial
    | cons r' rest => trivial

/-- What is made of branches is one of them, a set of characters, or the choice between them. -/
theorem neat_ofPlainBranches (h : ∀ branch ∈ branches, branch.Neat) :
    (ofPlainBranches branches).Neat := by
  unfold ofPlainBranches
  split
  · trivial
  · exact h _ List.mem_cons_self
  · split
    · exact neat_ofSet _
    · exact allNeat_iff.2 h

/-- Where all branches are sequences, these are they. -/
theorem mem_of_sequences {sequences : List (List Core)}
    (h : branches.mapM sequence? = some sequences) (hparts : parts ∈ sequences) :
    .sequence parts ∈ branches := by
  induction branches generalizing sequences with
  | nil =>
    obtain rfl : [] = sequences := Option.some.inj h
    cases hparts
  | cons branch rest ih =>
    rw [List.mapM_cons] at h
    obtain ⟨first, hfirst, h⟩ := Option.bind_eq_some_iff.1 h
    obtain ⟨others, hothers, h⟩ := Option.bind_eq_some_iff.1 h
    obtain rfl := Option.some.inj h
    rcases List.mem_cons.1 hparts with rfl | hparts
    · cases branch with
      | sequence parts =>
        obtain rfl := Option.some.inj hfirst
        exact List.mem_cons_self
      | _ => cases hfirst
    · exact List.mem_cons_of_mem _ (ih hothers hparts)

/-- Moving in front what branches have in common changes no part. -/
theorem neat_ofBranches (h : ∀ branch ∈ branches, branch.Neat) : (ofBranches branches).Neat := by
  have hflat : ∀ branch ∈ branches.flatMap branchesOf, branch.Neat := by
    intro branch hmem
    obtain ⟨core, hcore, hmem⟩ := List.mem_flatMap.1 hmem
    exact neat_branchesOf (h core hcore) branch hmem
  unfold ofBranches
  dsimp only
  split
  · next first second rest hsequences =>
    have hparts : ∀ parts ∈ first :: second :: rest, ∀ part ∈ parts, part.Neat := by
      intro parts hmem
      have hneat := hflat _ (mem_of_sequences hsequences hmem)
      exact allNeat_iff.1 hneat.1
    split
    · exact allNeat_iff.2 hflat
    · refine neat_ofParts fun part hmem => ?_
      rcases List.mem_append.1 hmem with hmem | hmem
      · exact hparts first List.mem_cons_self part (List.mem_of_mem_take hmem)
      · obtain rfl := List.mem_singleton.1 hmem
        refine neat_ofPlainBranches fun branch hmem => ?_
        obtain ⟨core, hcore, hmem⟩ := List.mem_flatMap.1 hmem
        obtain ⟨parts, hmem', rfl⟩ := List.mem_map.1 hcore
        refine neat_branchesOf (neat_ofParts fun part hpart => ?_) branch hmem
        exact hparts parts hmem' part (List.mem_of_mem_drop hpart)
  · exact neat_ofPlainBranches hflat

/-- A repetition is nothing, or its body, or has its body as its only part. -/
theorem neat_ofRepetition {min : Nat} {max : Option Nat} {greedy : Bool} (h : core.Neat) :
    (ofRepetition core min max greedy).Neat := by
  unfold ofRepetition
  extract_lets readsNothing min max
  split
  · trivial
  · split
    · exact h
    · trivial

end Building

end Core

mutual

/-- **What a pattern means is neat.** -/
theorem Node.neat_core {mode mode' : Mode} {core : Core} (node : Node)
    (h : node.core mode = .ok (core, mode')) : core.Neat := by
  cases node with
  | nothing s | flags s change | anchor s kind =>
    cases h
    trivial
  | literal l =>
    obtain ⟨l', hl, h⟩ := bind_eq_ok_iff.1 h
    obtain ⟨u, -, hl⟩ := bind_eq_ok_iff.1 hl
    cases hl
    cases h
    exact Core.neat_ofSet _
  | dot s =>
    obtain ⟨core, hdot, h⟩ := bind_eq_ok_iff.1 h
    unfold dotCore at hdot
    cases h
    split at hdot
    · cases hdot
    · cases hdot
      exact Core.neat_ofSet _
  | property s negated query | shorthand s negated kind =>
    obtain ⟨set, -, h⟩ := bind_eq_ok_iff.1 h
    cases h
    exact Core.neat_ofSet _
  | bracketed s negated items =>
    obtain ⟨inner, -, h⟩ := bind_eq_ok_iff.1 h
    obtain ⟨set, -, h⟩ := bind_eq_ok_iff.1 h
    cases h
    exact Core.neat_ofSet _
  | repetition s body min max greedy =>
    obtain ⟨r, hbody, h⟩ := bind_eq_ok_iff.1 h
    cases h
    exact Core.neat_ofRepetition (Node.neat_core body hbody)
  | group s kind body =>
    cases kind with
    | capturing index =>
      obtain ⟨r, hbody, h⟩ := bind_eq_ok_iff.1 h
      cases h
      trivial
    | plain change =>
      obtain ⟨r, hbody, h⟩ := bind_eq_ok_iff.1 h
      cases h
      exact Node.neat_core body hbody
  | choice s branches =>
    obtain ⟨r, hbranches, h⟩ := bind_eq_ok_iff.1 h
    cases h
    exact Core.neat_ofBranches (Node.neat_cores branches hbranches fun _ h => by cases h)
  | sequence s parts =>
    obtain ⟨r, hparts, h⟩ := bind_eq_ok_iff.1 h
    cases h
    exact Core.neat_ofParts (Node.neat_cores parts hparts fun _ h => by cases h)

theorem Node.neat_cores {mode mode' : Mode} {before cores : List Core} (nodes : List Node)
    (h : Node.cores mode before nodes = .ok (cores, mode'))
    (hbefore : ∀ core ∈ before, core.Neat) : ∀ core ∈ cores, core.Neat := by
  cases nodes with
  | nil =>
    cases h
    exact fun core hmem => hbefore core (List.mem_reverse.1 hmem)
  | cons node rest =>
    rw [Node.cores] at h
    split at h
    · cases h
    · next core mode hnode =>
      refine Node.neat_cores rest h fun core' hmem => ?_
      rcases List.mem_cons.1 hmem with rfl | hmem
      · exact Node.neat_core node hnode
      · exact hbefore core' hmem

end

/-! ## Room -/

namespace Weight

theorem ext {a b : Weight} (h : a.forwards = b.forwards) (h' : a.backwards = b.backwards) :
    a = b := by
  cases a
  cases b
  cases h
  cases h'
  rfl

theorem forwards_add (a b : Weight) : (a + b).forwards = a.forwards + b.forwards := rfl

theorem backwards_add (a b : Weight) : (a + b).backwards = a.backwards + b.backwards := rfl

theorem add_assoc (a b c : Weight) : a + b + c = a + (b + c) :=
  ext (Nat.add_assoc _ _ _) (Nat.add_assoc _ _ _)

theorem add_comm (a b : Weight) : a + b = b + a := ext (Nat.add_comm _ _) (Nat.add_comm _ _)

theorem both_add (n m : Nat) : both n + both m = both (n + m) := rfl

end Weight

namespace Core

open Weight

section Weights

variable (f : CharSet → Weight) {core part : Core} {parts behind : List Core}

/-- What has been summed up before is carried along. -/
theorem weightOfAll_eq (sum : Weight) (parts : List Core) :
    weightOfAll f sum parts = sum + weightOfAll f (both 0) parts := by
  induction parts generalizing sum with
  | nil => rfl
  | cons part rest ih =>
    rw [weightOfAll, weightOfAll, ih, ih (both 0 + _), ← add_assoc, ← add_assoc]
    rfl

theorem weightOfAll_cons (part : Core) (rest : List Core) :
    weightOfAll f (both 0) (part :: rest) = part.weight f + weightOfAll f (both 0) rest := by
  rw [weightOfAll, weightOfAll_eq]
  refine congrArg (· + _) (ext (Nat.zero_add _) (Nat.zero_add _))

theorem weight_sequence (parts : List Core) :
    weight f (.sequence parts) = weightOfAll f (both 0) parts := by
  rw [weight]
  rfl

/-- Laid open as a sequence, a meaning takes as much room as before. -/
theorem weightOfAll_partsOf (core : Core) :
    weightOfAll f (both 0) (partsOf core) = core.weight f := by
  cases core with
  | sequence parts => exact (weight_sequence f parts).symm
  | _ =>
    rw [partsOf, weightOfAll_cons, weightOfAll]
    · exact ext (Nat.add_zero _) (Nat.add_zero _)
    · exact fun _ h => by cases h

/-- Texts that are joined take as much room as they take apart. -/
theorem weightOfAll_consPart (h : part ≠ .nothing) :
    weightOfAll f (both 0) (consPart part behind) =
      part.weight f + weightOfAll f (both 0) behind := by
  fun_cases consPart part behind with
  | case1 => exact absurd rfl h
  | case2 cs ds rest =>
    rw [weightOfAll_cons, weightOfAll_cons, ← add_assoc]
    refine congrArg (· + _) ?_
    rw [weight, weight, weight, both_add, List.map_append, List.sum_append, Nat.mul_add]
  | case3 => exact weightOfAll_cons f _ _

/-- So no room is lost or won where parts are put together, of which none is nothing. -/
theorem weightOfAll_foldr_consPart (h : .nothing ∉ parts) :
    weightOfAll f (both 0) (parts.foldr consPart behind) =
      weightOfAll f (both 0) parts + weightOfAll f (both 0) behind := by
  induction parts with
  | nil => exact ext (Nat.zero_add _).symm (Nat.zero_add _).symm
  | cons part rest ih =>
    rw [List.mem_cons, not_or] at h
    rw [List.foldr_cons, weightOfAll_consPart f (Ne.symm h.1), ih h.2, weightOfAll_cons, add_assoc]

end Weights

/-- A meaning between two conditions. -/
def between (first last : Condition) (core : Core) : Core :=
  ofParts [.require first, core, .require last]

theorem exists_foldr_consPart (parts : List Core) (last : Condition) :
    ∃ part rest, parts.foldr consPart [.require last] = part :: rest := by
  induction parts with
  | nil => exact ⟨_, _, rfl⟩
  | cons part parts ih =>
    obtain ⟨first, rest, hrest⟩ := ih
    rw [List.foldr_cons, hrest]
    unfold consPart
    split <;> exact ⟨_, _, rfl⟩

/-- The conditions stay the first part and the last one, whatever is joined between them. -/
theorem between_eq (first last : Condition) (core : Core) :
    between first last core =
      .sequence (.require first :: (partsOf core).foldr consPart [.require last]) := by
  have hparts : [.require first, core, .require last].flatMap partsOf =
      .require first :: (partsOf core ++ [.require last]) := rfl
  obtain ⟨part, rest, hrest⟩ := exists_foldr_consPart (partsOf core) last
  have hlast : consPart (.require last) [] = [.require last] := rfl
  unfold between ofParts
  rw [hparts, List.foldr_cons, List.foldr_append, List.foldr_cons, List.foldr_nil, hlast, hrest]
  rfl

/-- The room for a set is known. -/
theorem lookup_ofSet (sets : List CharSet) (set : CharSet) :
    ((sets.map fun s => (s, Weight.ofSet s)).lookup set).getD (Weight.ofSet set) =
      Weight.ofSet set := by
  induction sets with
  | nil => rfl
  | cons s rest ih =>
    rw [List.map_cons, List.lookup_cons]
    split
    · next heq => rw [beq_iff_eq.1 heq, Option.getD_some]
    · exact ih

/-- Its own room and that of any program. -/
theorem size_eq (core : Core) :
    core.size = Nat.max ((core.weight Weight.ofSet).forwards + 208)
      ((core.weight Weight.ofSet).backwards + 144) := by
  unfold size
  simp only [lookup_ofSet]
  rfl

/-- **What is around a pattern takes its own room.** -/
theorem size_between (first last : Condition) {core : Core} (h : core.Neat)
    (hne : core ≠ .nothing) : (between first last core).size = core.size + 64 := by
  have hweight : (between first last core).weight Weight.ofSet =
      core.weight Weight.ofSet + both 64 := by
    rw [between_eq, weight_sequence, weightOfAll_cons,
      weightOfAll_foldr_consPart _ (nothing_notMem_partsOf h hne), weightOfAll_partsOf,
      weightOfAll_cons, weightOfAll, weight, weight, add_comm, add_assoc]
    rfl
  rw [size_eq, size_eq, hweight, forwards_add, backwards_add]
  simp only [both, Nat.max_def]
  split <;> split <;> omega

end Core

end Pattern

end Switchboard
