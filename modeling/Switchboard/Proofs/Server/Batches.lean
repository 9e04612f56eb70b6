import Switchboard.Proofs.Json.Layout
import Switchboard.Proofs.Server.Posts
import Switchboard.Proofs.Text.Characters
import Mathlib.Data.List.Forall2
/-!
# A batch is its entries

What a batch of entries comes to, compared with the same entries posted one after the other
(`batchLaws`). The answer has the same responses in the same order, and the server is the same
after it. Which entries have a response is read off them: all but the calls without id. Each
response carries the id of its entry. All that goes for batches that are read; the brackets around
the entries are a level of nesting, and there may be one too many.
-/

namespace Switchboard

namespace Rpc

variable {s : Server} {body : List UInt8} {entry : Json} {entries : List Json}
variable {bodies : List (List UInt8)} {fields : Json.Fields} {r : Json}

/-! ## One after the other -/

/-- **Bodies are posted one after the other,** each on its own: the responses that there are, and
the server after them. -/
def postEach : List (List UInt8) → Server → List Json × Server
  | [], s => ([], s)
  | body :: rest, s =>
    ((answer none body s).1.join.toList ++ (postEach rest (answer none body s).2).1,
      (postEach rest (answer none body s).2).2)

/-- Bodies of single entries are carried out as these entries are in a batch. -/
theorem postEach_eq (hreads : List.Forall₂ Reads bodies entries)
    (hsingle : ∀ entry ∈ entries, Single entry) (s : Server) :
    postEach bodies s = carryOutAll entries s := by
  induction hreads generalizing s with
  | nil => rfl
  | cons hread hrest ih =>
    rw [List.forall_mem_cons] at hsingle
    rw [postEach, carryOutAll, answer_of_single hread hsingle.1, ih hsingle.2]
    rfl

/-! ## Which batches are read -/

/-- **The text of a batch is read if its entries nest at least one level less deep than readers go,**
and not otherwise. -/
theorem reads_text_iff (hordered : (Json.array entries).Ordered)
    (hwhole : (Json.array entries).Whole) :
    Reads (Text.bytes (Json.array entries).text) (.array entries) ↔
      ∀ entry ∈ entries, entry.nesting + 1 < Json.nestingLimit := by
  have hlimit : Json.nestingLimit = 127 + 1 := rfl
  rw [Reads, Json.Source.ofBytes_bytes]
  refine (Json.parse_text hordered hwhole _).trans ((and_iff_left rfl).trans ?_)
  rw [hlimit, Json.nesting_array_lt (by decide)]
  exact forall₂_congr fun entry _ => by omega

/-! ## Which entries have a response -/

/-- An object is a call of the method. -/
structure IsCall (fields : Json.Fields) (method : String) : Prop where
  version : fields.lookup "jsonrpc" = some (.string "2.0")
  method : fields.lookup "method" = some (.string method)

/-- **A call that is not answered** has no id. -/
def IsNotification (entry : Json) : Prop :=
  ∃ fields method, entry = .object fields ∧ IsCall fields method ∧ fields.lookup "id" = none

/-- The id of an entry, null if it has none. -/
def idOf (entry : Json) : Json := (entry.field? "id").getD .null

theorem ofJson_of_isCall {method : String} (h : IsCall fields method) :
    Request.ofJson (.object fields) =
      .ok ⟨fields.lookup "id", method, (fields.lookup "params").getD .null⟩ := by
  rw [Request.ofJson]
  dsimp only
  rw [h.version, h.method]
  rfl

theorem ofJson_of_not_isCall (h : ∀ method, ¬ IsCall fields method) :
    ∃ reason, Request.ofJson (.object fields) = .error ⟨idOf (.object fields), reason⟩ := by
  rw [Request.ofJson]
  dsimp only
  split
  · next v hversion =>
    split
    · next hv =>
      subst hv
      split
      · next method hmethod => exact absurd ⟨hversion, hmethod⟩ (h method)
      · exact ⟨_, rfl⟩
    · exact ⟨_, rfl⟩
  · exact ⟨_, rfl⟩

theorem ofJson_of_not_object (h : ∀ fields, entry ≠ .object fields) :
    Request.ofJson entry = .error ⟨.null, "request must be an object"⟩ := by
  cases entry with
  | object fields => exact absurd rfl (h fields)
  | _ => rfl

/-- A response bears the id that it is made for. -/
theorem id_response (id : Json) {name : String} (hname : name ≠ "id") (content : Json) :
    (response id name content).field? "id" = some id := by
  simp [response, Json.ofFields, Json.Fields.ofList, Json.field?, hname.symm]

theorem id_respond (id : Json) (outcome : Except CallError Json) :
    (respond id outcome).field? "id" = some id := by
  cases outcome with
  | ok v => exact id_response id (by decide) v
  | error e => exact id_response id (by decide) _

/-! ## Carrying one out -/

/-- The parameters of a call, null if there are none. -/
def paramsOf (fields : Json.Fields) : Json := (fields.lookup "params").getD .null

theorem carryOut_of_isCall {method : String} (h : IsCall fields method) (s : Server) :
    carryOut (.object fields) s =
      ((fields.lookup "id").map (respond · (s.call method (paramsOf fields)).1),
        (s.call method (paramsOf fields)).2) := by
  rw [carryOut, ofJson_of_isCall h]
  rfl

theorem carryOut_of_not_isCall (h : ∀ method, ¬ IsCall fields method) (s : Server) :
    ∃ reason, carryOut (.object fields) s =
      (some (errorResponse (idOf (.object fields)) invalidRequest reason), s) := by
  obtain ⟨reason, hreason⟩ := ofJson_of_not_isCall h
  exact ⟨reason, by rw [carryOut, hreason]⟩

theorem carryOut_of_not_object (h : ∀ fields, entry ≠ .object fields) (s : Server) :
    carryOut entry s =
      (some (errorResponse .null invalidRequest "request must be an object"), s) := by
  rw [carryOut, ofJson_of_not_object h]

/-- **What an entry is answered with, if it is,** bears its id, and it is a call without id if it is
not. -/
theorem carryOut_cases (entry : Json) (s : Server) :
    (IsNotification entry ∧ (carryOut entry s).1 = none) ∨
      ¬ IsNotification entry ∧
        ∃ r, (carryOut entry s).1 = some r ∧ r.field? "id" = some (idOf entry) := by
  by_cases hobject : ∃ fields, entry = .object fields
  · obtain ⟨fields, rfl⟩ := hobject
    by_cases hcall : ∃ method, IsCall fields method
    · obtain ⟨method, hmethod⟩ := hcall
      rw [carryOut_of_isCall hmethod]
      cases hid : fields.lookup "id" with
      | none => exact .inl ⟨⟨fields, method, rfl, hmethod, hid⟩, rfl⟩
      | some id =>
        have hof : idOf (.object fields) = id := by
          rw [idOf, Json.field?, hid, Option.getD_some]
        refine .inr ⟨?_, _, rfl, hof ▸ id_respond id _⟩
        rintro ⟨_, _, hfields, -, hnone⟩
        cases hfields
        rw [hid] at hnone
        cases hnone
    · obtain ⟨reason, hreason⟩ := carryOut_of_not_isCall (fun m hm => hcall ⟨m, hm⟩) s
      rw [hreason]
      refine .inr ⟨?_, _, rfl, id_response _ (by decide) _⟩
      rintro ⟨_, method, hfields, hmethod, -⟩
      cases hfields
      exact hcall ⟨method, hmethod⟩
  · have hother : ∀ fields, entry ≠ .object fields := fun fields h => hobject ⟨fields, h⟩
    have hof : idOf entry = .null := by
      cases entry with
      | object fields => exact absurd rfl (hother fields)
      | _ => rfl
    rw [carryOut_of_not_object hother, hof]
    refine .inr ⟨?_, _, rfl, id_response _ (by decide) _⟩
    rintro ⟨fields, _, hfields, -⟩
    exact hother fields hfields

/-! ## The laws of batches -/

/-- **What a server makes of a batch,** whatever its state. -/
structure BatchLaws (s : Server) : Prop where
  /-- A batch is answered with the responses that its entries would have had one after the other, in
  their order, and not at all if there are none; and it leaves the server as they would have. -/
  batch : ∀ body entries bodies, Reads body (.array entries) → entries ≠ [] →
    (∀ entry ∈ entries, Single entry) → List.Forall₂ Reads bodies entries →
    answer none body s = (some (batched (postEach bodies s).1), (postEach bodies s).2)
  /-- The text of a batch is read unless an entry nests too deep to stand in one, -/
  read_iff : ∀ entries, (Json.array entries).Ordered → (Json.array entries).Whole →
    (Reads (Text.bytes (Json.array entries).text) (.array entries) ↔
      ∀ entry ∈ entries, entry.nesting + 1 < Json.nestingLimit)
  /-- and what is not read is answered with one error, and nothing is done. -/
  unread : ∀ body message, Json.parseSource (.ofBytes body) = .error message →
    answer none body s = (some (some (errorResponse .null parseError message)), s)
  /-- An entry has no response if and only if it is a call in all respects and has no id. -/
  unanswered : ∀ body entry, Reads body entry → Single entry →
    ((answer none body s).1 = some none ↔ IsNotification entry)
  /-- The response to any other object bears the object's own id, or null if it has none. -/
  own_id : ∀ body fields, Reads body (.object fields) → ¬ IsNotification (.object fields) →
    ∃ r, (answer none body s).1 = some (some r) ∧
      r.field? "id" = some ((fields.lookup "id").getD .null)
  /-- What is no object is an invalid request without an id, and nothing is done. -/
  no_object : ∀ body entry, Reads body entry → Single entry → (∀ fields, entry ≠ .object fields) →
    answer none body s =
      (some (some (errorResponse .null invalidRequest "request must be an object")), s)
  /-- On the web an answer is a response of status 200 with the value, and no answer is one of
  status 204 without anything. A limit to the time of the request makes no difference if it is done
  in time. -/
  on_the_web : ∀ body limit uptime, body.length ≤ Http.bodyLimit →
    (answer none body s).2.clock.now ≤ limit → ∃ answered, (answer none body s).1 = some answered ∧
      Http.respond uptime limit body .remoteCalls s =
        (some (reply answered), (answer none body s).2)

/-- **A batch is its entries, one by one.** -/
theorem batchLaws (s : Server) : BatchLaws s where
  batch body entries bodies hreads hne hsingle hbodies := by
    rw [answer_of_batch hreads hne, postEach_eq hbodies hsingle]
  read_iff entries hordered hwhole := reads_text_iff hordered hwhole
  unread body message h := answer_of_unreadable h
  unanswered body entry hreads hsingle := by
    rw [answer_of_single hreads hsingle]
    rcases carryOut_cases entry s with ⟨hnot, hnone⟩ | ⟨hanswered, r, hr, -⟩
    · rw [hnone]
      exact iff_of_true rfl hnot
    · rw [hr]
      exact iff_of_false (fun h => Option.some_ne_none r (Option.some.inj h)) hanswered
  own_id body fields hreads hanswered := by
    have hsingle : Single (.object fields) := fun _ => Json.noConfusion
    rw [answer_of_single hreads hsingle]
    rcases carryOut_cases (.object fields) s with ⟨hnot, -⟩ | ⟨-, r, hr, hid⟩
    · exact absurd hnot hanswered
    · exact ⟨r, congrArg some hr, hid⟩
  no_object body entry hreads hsingle hother := by
    rw [answer_of_single hreads hsingle, carryOut_of_not_object hother]
  on_the_web body limit uptime hshort htimely := by
    obtain ⟨answered, hanswered⟩ := exists_answer body s
    refine ⟨answered, hanswered, ?_⟩
    rw [respond_eq hshort, answer_of_timely htimely, hanswered]
    rfl

/-- A call whose parameters nest so deep that it is read by itself and not in a batch. -/
def deepEntry : Json :=
  .object [("id", .string "1"), ("jsonrpc", .string "2.0"), ("method", .string "m"),
    ("params", Json.arraysAround 125)]

theorem nesting_deepEntry : deepEntry.nesting = 127 := by
  simp [deepEntry, Json.nesting, Json.nestingOfFields, Json.nesting_arraysAround]

theorem ordered_deepEntry : deepEntry.Ordered := by
  have hnames : ["id", "jsonrpc", "method", "params"].Pairwise (· < ·) := by decide
  refine .object (List.pairwise_map.1 hnames) fun f hf => ?_
  simp only [List.mem_cons, List.not_mem_nil, or_false] at hf
  rcases hf with rfl | rfl | rfl | rfl
  · exact .string _
  · exact .string _
  · exact .string _
  · exact (Json.ordered_arraysAround 125).1

theorem whole_deepEntry : deepEntry.Whole := by
  refine .object fun f hf => ?_
  simp only [List.mem_cons, List.not_mem_nil, or_false] at hf
  rcases hf with rfl | rfl | rfl | rfl
  · exact .string _
  · exact .string _
  · exact .string _
  · exact (Json.ordered_arraysAround 125).2

/-- No batch is answered as one that is not read. -/
theorem batched_ne_errorResponse (responses : List Json) (id : Json) (code : Int)
    (message : String) : some (errorResponse id code message) ≠ batched responses := by
  unfold batched
  split
  · exact Option.some_ne_none _
  · exact fun h => Json.noConfusion (Option.some.inj h)

/-- **An entry that is carried out by itself need not be in a batch.** There it may nest too deep, and
then nothing of the batch is read. -/
theorem deepEntry_not_read_in_batch :
    Single deepEntry ∧ Reads (Text.bytes deepEntry.text) deepEntry ∧
      ∀ s : Server,
        (∃ r, (answer none (Text.bytes deepEntry.text) s).1 = some (some r) ∧
          r.field? "id" = some (.string "1")) ∧
        (∃ message, answer none (Text.bytes (Json.array [deepEntry]).text) s =
          (some (some (errorResponse .null parseError message)), s)) ∧
        (answer none (Text.bytes (Json.array [deepEntry]).text) s).1 ≠
          some (batched (postEach [Text.bytes deepEntry.text] s).1) := by
  have hsingle : Single deepEntry := fun _ => Json.noConfusion
  have halone : Reads (Text.bytes deepEntry.text) deepEntry := by
    rw [Reads, Json.Source.ofBytes_bytes]
    refine (Json.parse_text ordered_deepEntry whole_deepEntry).eq_ok ?_
    rw [nesting_deepEntry]
    decide
  -- the brackets of the batch are one level too many
  have hunread : ∃ message,
      Json.parseSource (.ofBytes (Text.bytes (Json.array [deepEntry]).text)) = .error message := by
    have hordered : (Json.array [deepEntry]).Ordered :=
      .array (List.forall_mem_singleton.2 ordered_deepEntry)
    have hwhole : (Json.array [deepEntry]).Whole :=
      .array (List.forall_mem_singleton.2 whole_deepEntry)
    rw [Json.Source.ofBytes_bytes]
    refine (Json.parse_text hordered hwhole).exists_error ?_
    rw [Json.nesting, Json.nestingOfItems, Json.nestingOfItems, nesting_deepEntry]
    decide
  refine ⟨hsingle, halone, fun s => ?_⟩
  obtain ⟨message, hmessage⟩ := hunread
  rw [answer_of_unreadable hmessage]
  refine ⟨?_, ⟨message, rfl⟩, fun h => batched_ne_errorResponse _ _ _ _ (Option.some.inj h)⟩
  rw [answer_of_single halone hsingle]
  rcases carryOut_cases deepEntry s with ⟨⟨fields, _, hfields, -, hid⟩, -⟩ | ⟨-, r, hr, hid⟩
  · cases hfields
    cases hid
  · exact ⟨r, congrArg some hr, hid⟩

end Rpc

end Switchboard
