import Switchboard.Json.Record
import Switchboard.Proofs.Json.Shape
import Switchboard.Proofs.Task.Success
/-!
# What readers make

Whatever text a value is read from, its objects are in order, and it nests less deep than there were
levels left (`Json.soundReaders`). Typed readers make something of a kind if the readers for its
parts do (`Json.Makes`).
-/

namespace Switchboard

namespace Json

variable {fuel depth : Nat} {s : Source} {fields : Fields}

/-! ## Values -/

/-- In order, and with so many levels left to read it. -/
structure Sound (depth : Nat) (v : Json) : Prop where
  ordered : v.Ordered
  nesting : v.nesting < depth

theorem Sound.mono {v : Json} (h : Sound depth v) {k : Nat} (hk : depth ≤ k) : Sound k v :=
  ⟨h.ordered, Nat.lt_of_lt_of_le h.nesting hk⟩

/-- Fields in order, each of them sound. -/
structure SoundFields (depth : Nat) (fields : Fields) : Prop where
  increasing : fields.Pairwise fun f g => f.1 < g.1
  sound : ∀ f ∈ fields, Sound depth f.2

theorem SoundFields.insert (h : SoundFields depth fields) {v : Json} (hv : Sound depth v)
    (name : String) : SoundFields depth (insertField name v fields) where
  increasing := pairwise_insertField h.increasing
  sound f hf := by
    rcases mem_insertField hf with rfl | hf
    · exact hv
    · exact h.sound f hf

theorem sound_array {items : List Json} (hdepth : 0 < depth) (h : ∀ v ∈ items, Sound depth v) :
    Sound (depth + 1) (.array items) where
  ordered := .array fun v hv => (h v hv).ordered
  nesting := (nesting_array_lt hdepth).2 fun v hv => (h v hv).nesting

theorem SoundFields.object (hdepth : 0 < depth) (h : SoundFields depth fields) :
    Sound (depth + 1) (.object fields) where
  ordered := .object h.increasing fun f hf => (h.sound f hf).ordered
  nesting := (nesting_object_lt hdepth).2 fun f hf => (h.sound f hf).nesting

/-- What the three readers of values make, given so much fuel. -/
structure SoundReaders (fuel : Nat) : Prop where
  value : ∀ depth s, 0 < depth → GivesOnly (fun p => Sound depth p.1) (readValue fuel depth s)
  items : ∀ depth first s, 0 < depth →
    GivesOnly (fun p => ∀ v ∈ p.1, Sound depth v) (readItems fuel depth first s)
  fields : ∀ depth first acc s, 0 < depth → SoundFields depth acc →
    GivesOnly (fun p => SoundFields depth p.1) (readFields fuel depth first acc s)

theorem SoundReaders.readValue_succ (h : SoundReaders fuel) (hdepth : 0 < depth) (s : Source) :
    GivesOnly (fun p => Sound depth p.1) (readValue (fuel + 1) depth s) := by
  rw [readValue]
  split
  · exact givesOnly_error _
  · exact givesOnly_bind fun _ => givesOnly_ok ⟨.null, hdepth⟩
  · exact givesOnly_bind fun _ => givesOnly_ok ⟨.bool true, hdepth⟩
  · exact givesOnly_bind fun _ => givesOnly_ok ⟨.bool false, hdepth⟩
  · exact givesOnly_bind fun p => givesOnly_ok ⟨.number p.1, hdepth⟩
  · exact givesOnly_bind fun p => givesOnly_ok ⟨.string p.1, hdepth⟩
  -- Arrays and objects go down a level, and only where there is one left below.
  · split
    · exact givesOnly_error _
    · next hlevels =>
      obtain ⟨d, rfl⟩ : ∃ d, depth = d + 1 + 1 := ⟨depth - 2, by omega⟩
      exact (h.items (d + 1) true _ (Nat.succ_pos d)).bind fun p hp =>
        givesOnly_ok (sound_array (Nat.succ_pos d) hp)
  · split
    · exact givesOnly_error _
    · next hlevels =>
      obtain ⟨d, rfl⟩ : ∃ d, depth = d + 1 + 1 := ⟨depth - 2, by omega⟩
      exact (h.fields (d + 1) true [] _ (Nat.succ_pos d) ⟨.nil, fun f hf => (by cases hf)⟩).bind
        fun p hp => givesOnly_ok (hp.object (Nat.succ_pos d))
  · split
    · exact givesOnly_bind fun p => givesOnly_ok ⟨.number p.1, hdepth⟩
    · exact givesOnly_error _

theorem SoundReaders.succ (h : SoundReaders fuel) : SoundReaders (fuel + 1) where
  value depth s hdepth := h.readValue_succ hdepth s
  items depth first s hdepth := by
    rw [readItems]
    refine givesOnly_bind fun next => ?_
    cases next with
    | none => exact givesOnly_ok fun v hv => (by cases hv)
    | some s' =>
      refine (h.value depth s' hdepth).bind fun p hp => ?_
      refine (h.items depth false p.2 hdepth).bind fun q hq => givesOnly_ok ?_
      exact List.forall_mem_cons.2 ⟨hp, hq⟩
  fields depth first acc s hdepth hacc := by
    rw [readFields]
    refine givesOnly_bind fun next => ?_
    cases next with
    | none => exact givesOnly_ok hacc
    | some s' =>
      refine givesOnly_bind fun p => givesOnly_bind fun s'' => ?_
      refine (h.value depth s'' hdepth).bind fun q hq => ?_
      exact h.fields depth false _ q.2 hdepth (hacc.insert hq p.1)

/-- **Whatever is read as a value is in order,** and nests less deep than there were levels. -/
theorem soundReaders (fuel : Nat) : SoundReaders fuel := by
  -- The three readers call each other with less fuel, so it is shown of all of them at once.
  induction fuel with
  | zero =>
    exact
      { value := fun _ _ _ => givesOnly_error _
        items := fun _ _ _ _ => givesOnly_error _
        fields := fun _ _ _ _ _ _ => givesOnly_error _ }
  | succ fuel ih => exact ih.succ

/-- So is the value of any text. -/
theorem sound_of_parse {text : String} {v : Json} (h : parse text = .ok v) :
    Sound nestingLimit v := by
  have hparse : GivesOnly (Sound nestingLimit) (parse text) := by
    rw [parse, parseSource]
    refine GivesOnly.mapError _ ?_
    rw [parseWith]
    refine ((soundReaders _).value nestingLimit _ (by decide)).bind fun p hp => ?_
    obtain ⟨v, rest⟩ := p
    dsimp only
    split
    · exact givesOnly_ok hp
    · exact givesOnly_error _
  exact hparse v h

/-! ## Typed readers -/

variable {α β : Type} {read : Reader α} {P : α → Prop} {Q : β → Prop}

/-- **With so many levels left, the reader makes something of this kind,** or nothing. -/
def Makes (depth : Nat) (read : Reader α) (P : α → Prop) : Prop :=
  ∀ s, GivesOnly (fun p => P p.1) (read depth s)

theorem makes_any (depth : Nat) (read : Reader α) : Makes depth read fun _ => True :=
  fun _ _ _ => trivial

theorem makes_anyValue (hdepth : 0 < depth) : Makes depth anyValue (Sound depth) :=
  fun s => (soundReaders (enoughFuel s)).value depth s hdepth

theorem readListItems_makes (h : Makes depth read P) (fuel : Nat) (first : Bool) (s : Source) :
    GivesOnly (fun p => ∀ x ∈ p.1, P x) (readListItems read depth fuel first s) := by
  induction fuel generalizing first s with
  | zero => exact givesOnly_error _
  | succ fuel ih =>
    rw [readListItems]
    refine givesOnly_bind fun next => ?_
    cases next with
    | none => exact givesOnly_ok fun x hx => (by cases hx)
    | some s =>
      refine (h s).bind fun p hp => (ih false p.2).bind fun q hq => givesOnly_ok ?_
      exact List.forall_mem_cons.2 ⟨hp, hq⟩

theorem givesOnly_refuse (expected : String) (s : Source) {R : α × Source → Prop} :
    GivesOnly R (refuse expected s) := by
  rw [refuse.eq_def]
  split
  · exact givesOnly_bind fun _ => givesOnly_error _
  · exact givesOnly_bind fun _ => givesOnly_error _
  · exact givesOnly_bind fun _ => givesOnly_error _
  · exact givesOnly_bind fun _ => givesOnly_error _
  · exact givesOnly_bind fun _ => givesOnly_error _
  · exact givesOnly_error _
  · exact givesOnly_error _
  · split
    · exact givesOnly_bind fun _ => givesOnly_error _
    · exact givesOnly_error _

theorem Makes.listOf (h : Makes depth read P) :
    Makes (depth + 1) (listOf read) fun xs => ∀ x ∈ xs, P x := by
  intro s
  rw [Json.listOf]
  split
  · exact givesOnly_error _
  · split
    · exact givesOnly_error _
    · exact readListItems_makes h _ true _
  · exact givesOnly_refuse _ _

/-- A field changes a record to one of the same kind. -/
def Keeps (depth : Nat) (f : FieldReader α) (P : α → Prop) : Prop :=
  ∀ s, GivesOnly (fun p => ∀ x, P x → P (p.1 x)) (f.read depth s)

theorem Makes.field {read : Reader β} (h : Makes depth read Q) {set : β → α → α}
    (hset : ∀ z x, Q z → P x → P (set z x)) {name : String} {required : Bool}
    {others : List String} : Keeps depth (fieldReader name required read set others) P :=
  fun s => (h s).bind fun p hp => givesOnly_ok fun x hx => hset p.1 x hp hx

/-- So does a field that makes no difference to the kind. -/
theorem keeps_of_indifferent {read : Reader β} {set : β → α → α}
    (hset : ∀ z x, P x → P (set z x)) {name : String} {required : Bool} {others : List String} :
    Keeps depth (fieldReader name required read set others) P :=
  (makes_any depth read).field fun z x _ hx => hset z x hx

theorem readPositional_makes {fields : List (FieldReader α)} (h : ∀ f ∈ fields, Keeps depth f P)
    {x : α} (hx : P x) (expected : String) (i : Nat) (s : Source) :
    GivesOnly (fun p => P p.1) (readPositional expected depth fields i x s) := by
  induction fields generalizing x i s with
  | nil => exact givesOnly_ok hx
  | cons f rest ih =>
    obtain ⟨hf, hrest⟩ := List.forall_mem_cons.1 h
    rw [readPositional]
    split
    · exact givesOnly_error _
    · split
      · exact givesOnly_error _
      · exact ih hrest hx _ _
    · next s _ =>
      cases hread : f.read depth s with
      | error e => exact givesOnly_error _
      | ok p => exact ih hrest (hf s p hread x hx) _ _

theorem readNamed_makes {fields : List (FieldReader α)} (h : ∀ f ∈ fields, Keeps depth f P)
    {x : α} (hx : P x) (fuel : Nat) (first : Bool) (seen : List String) (s : Source) :
    GivesOnly (fun p => P p.1) (readNamed fields depth fuel first seen x s) := by
  induction fuel generalizing x first seen s with
  | zero => exact givesOnly_error _
  | succ fuel ih =>
    rw [readNamed]
    refine givesOnly_bind fun next => ?_
    cases next with
    | none =>
      dsimp only
      split
      · exact givesOnly_error _
      · exact givesOnly_ok hx
    | some s =>
      refine givesOnly_bind fun p => ?_
      dsimp only
      split
      · exact givesOnly_bind fun s => givesOnly_bind fun s => ih hx _ _ _
      · next f hfound =>
        split
        · exact givesOnly_error _
        · refine givesOnly_bind fun s => ?_
          have hf := h f (List.mem_of_find?_eq_some hfound)
          exact ((hf s).mapError _).bind fun q hq => ih (hq x hx) _ _ _

theorem givesOnly_finishRecord {close : Source → Except (Failure × Source) Source}
    {result : Except Refusal (α × Source)} (h : GivesOnly (fun p => P p.1) result) :
    GivesOnly (fun p => P p.1) (finishRecord close result) := by
  cases result with
  | ok p =>
    rw [finishRecord]
    split
    · exact givesOnly_ok (h p rfl)
    · exact givesOnly_error _
  | error e =>
    cases e with
    | placed f => exact givesOnly_error _
    | unplaced cause s =>
      rw [finishRecord]
      split
      · exact givesOnly_error _
      · exact givesOnly_error _

/-- **A record is of a kind** if it is to start with, and every field keeps it so. -/
theorem makes_readRecord {fields : List (FieldReader α)} (h : ∀ f ∈ fields, Keeps depth f P)
    {start : α} (hstart : P start) (title : String) :
    Makes (depth + 1) (readRecord title fields start) P := by
  intro s
  rw [readRecord]
  split
  · exact givesOnly_error _
  · split
    · exact givesOnly_error _
    · exact givesOnly_finishRecord (readPositional_makes h hstart _ _ _)
  · split
    · exact givesOnly_error _
    · exact givesOnly_finishRecord (readNamed_makes h hstart _ _ _ _)
  · exact givesOnly_refuse _ _

/-- And so is what a whole document holds. -/
theorem Makes.readDocument (h : Makes nestingLimit read P) (text : String) :
    GivesOnly P (readDocument read text) := by
  rw [Json.readDocument]
  refine GivesOnly.mapError _ ?_
  rw [parseWith]
  refine (h _).bind fun p hp => ?_
  obtain ⟨x, rest⟩ := p
  dsimp only
  split
  · exact givesOnly_ok hp
  · exact givesOnly_error _

end Json

end Switchboard
