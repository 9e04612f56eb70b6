import Switchboard.Proofs.Traffic.Transparency
import Switchboard.Server.Http
/-!
# Posted bodies

What posting a body to a server comes to. A body that cannot be read and an empty batch are answered
without anything being carried out (`answer_of_unreadable`, `answer_of_empty`). An entry is
carried out by itself (`carryOut`), whether it stands alone or in a batch (`answer_of_single`,
`answer_of_batch`). While a body is worked on the server has one more request under way, which no
call can see, and none is left of that afterwards. Where the time of a request is
limited, all this holds as long as it is done in time (`answer_of_timely`).
-/

namespace Switchboard

namespace Flight

/-- No call turns the clock back. -/
theorem now_le_finish (see : Nat → Moment) (c : Task.Clock) (f : Flight) :
    c.now ≤ (finish see c f).2.now := by
  cases hms : f.allowance with
  | none =>
    rw [finish_of_unlimited hms]
    exact Task.now_le_run see c (f.rest c)
  | some ms =>
    rcases Nat.lt_or_ge (max c.now (f.endsBy c ms)) (finish see c f.alone).2.now
      with hlate | htimely
    · rw [(finish_of_lt hms hlate).2]
      exact Nat.le_max_left _ _
    · rw [finish_of_limited hms (Task.runUntil_of_le (finish_alone see c f ▸ htimely))]
      exact Task.now_le_run see c (f.rest c)

end Flight

namespace Rpc

variable {α β : Type} {s s' : Server} {health : Health} {body : List UInt8} {entry : Json}
variable {entries : List Json} {limit : Nat}

/-! ## Work -/

theorem run_bind (x : Work α) (f : α → Work β) (s : Server) :
    (x >>= f).run s =
      ((x.run s).1.elim (pure none : StateM Server (Option β)) fun a => (f a).run) (x.run s).2 := by
  rw [OptionT.run_bind]
  rfl

theorem run_bind_of_some {x : Work α} {f : α → Work β} {a : α} (h : x.run s = (some a, s')) :
    (x >>= f).run s = (f a).run s' := by
  rw [run_bind, h]
  rfl

/-! ## Entries -/

/-- **An entry is carried out,** however long it takes. -/
def carryOut (entry : Json) (s : Server) : Option Json × Server :=
  match Request.ofJson entry with
  | .error e => (some (errorResponse e.id invalidRequest e.reason), s)
  | .ok request =>
    (request.id.map (respond · (s.call request.method request.params).1),
      (s.call request.method request.params).2)

/-- Entries are carried out in order: the responses, and the server after them. -/
def carryOutAll : List Json → Server → List Json × Server
  | [], s => ([], s)
  | entry :: rest, s =>
    ((carryOut entry s).1.toList ++ (carryOutAll rest (carryOut entry s).2).1,
      (carryOutAll rest (carryOut entry s).2).2)

theorem run_answerEntry (entry : Json) (s : Server) :
    (answerEntry none entry).run s = (some (carryOut entry s).1, (carryOut entry s).2) := by
  rw [answerEntry, carryOut]
  cases Request.ofJson entry <;> rfl

theorem run_answerEntries (entries : List Json) (s : Server) :
    (answerEntries none entries).run s =
      (some (carryOutAll entries s).1, (carryOutAll entries s).2) := by
  induction entries generalizing s with
  | nil => rfl
  | cons entry rest ih =>
    rw [answerEntries, run_bind_of_some (run_answerEntry entry s), run_bind_of_some (ih _)]
    rfl

/-- No call sees how many requests are worked on. -/
theorem call_health (s : Server) (health : Health) (method : String) (params : Json) :
    Server.call method params { s with health := health } =
      ((s.call method params).1, { (s.call method params).2 with health := health }) := rfl

theorem carryOut_health (entry : Json) (s : Server) (health : Health) :
    carryOut entry { s with health := health } =
      ((carryOut entry s).1, { (carryOut entry s).2 with health := health }) := by
  rw [carryOut, carryOut]
  cases Request.ofJson entry with
  | error e => rfl
  | ok request =>
    dsimp only
    rw [call_health]

theorem carryOutAll_health (entries : List Json) (s : Server) (health : Health) :
    carryOutAll entries { s with health := health } =
      ((carryOutAll entries s).1, { (carryOutAll entries s).2 with health := health }) := by
  induction entries generalizing s with
  | nil => rfl
  | cons entry rest ih =>
    rw [carryOutAll, carryOutAll, carryOut_health]
    dsimp only
    rw [ih]

/-- Nor does any change it. -/
theorem health_carryOut (entry : Json) (s : Server) : (carryOut entry s).2.health = s.health := by
  rw [carryOut]
  cases Request.ofJson entry <;> rfl

theorem health_carryOutAll (entries : List Json) (s : Server) :
    (carryOutAll entries s).2.health = s.health := by
  induction entries generalizing s with
  | nil => rfl
  | cons entry rest ih =>
    rw [carryOutAll]
    dsimp only
    rw [ih, health_carryOut]

/-! ## Bodies -/

/-- The body is a text of the value. -/
def Reads (body : List UInt8) (v : Json) : Prop := Json.parseSource (.ofBytes body) = .ok v

example : Reads (Text.bytes "[null,\x7b\"method\":\"m\"\x7d]")
    (.array [.null, .object [("method", .string "m")]]) := by
  unfold Reads
  cbv

/-- The answer to a batch with these responses. -/
def batched (responses : List Json) : Option Json :=
  if responses.isEmpty then none else some (.array responses)

/-- The value is no array, so that it is posted as an entry by itself. -/
def Single (v : Json) : Prop := ∀ items, v ≠ .array items

theorem leave_enter (h : Health) : h.enter.leave = h := rfl

/-- What is done while a request is worked on is what is done otherwise, if it neither sees nor
changes how many are. -/
theorem answer_eq {result : Option (Option Json) × Server}
    (hrun : (answerBody none body).run { s with health := s.health.enter } =
      (result.1, { result.2 with health := s.health.enter }))
    (hhealth : result.2.health = s.health) : answer none body s = result := by
  rw [answer, hrun]
  dsimp only
  rw [leave_enter, ← hhealth]

theorem answer_of_unreadable {message : String}
    (h : Json.parseSource (.ofBytes body) = .error message) :
    answer none body s = (some (some (errorResponse .null parseError message)), s) := by
  refine answer_eq ?_ rfl
  rw [answerBody, h]
  rfl

theorem answer_of_empty (h : Reads body (.array [])) :
    answer none body s = (some (some (errorResponse .null invalidRequest "empty batch")), s) := by
  refine answer_eq ?_ rfl
  rw [Reads] at h
  rw [answerBody, h]
  rfl

/-- **A batch is its entries, carried out in order.** -/
theorem answer_of_batch (h : Reads body (.array entries)) (hne : entries ≠ []) :
    answer none body s =
      (some (batched (carryOutAll entries s).1), (carryOutAll entries s).2) := by
  refine answer_eq ?_ (health_carryOutAll entries s)
  rw [Reads] at h
  obtain ⟨entry, rest, rfl⟩ := List.exists_cons_of_ne_nil hne
  rw [answerBody, h]
  dsimp only
  rw [run_bind_of_some (run_answerEntries _ _), carryOutAll_health]
  rfl

/-- **An entry by itself is carried out.** -/
theorem answer_of_single (h : Reads body entry) (hsingle : Single entry) :
    answer none body s = (some (carryOut entry s).1, (carryOut entry s).2) := by
  refine answer_eq ?_ (health_carryOut entry s)
  rw [Reads] at h
  have hentry : (answerEntry none entry).run { s with health := s.health.enter } =
      (some (carryOut entry s).1, { (carryOut entry s).2 with health := s.health.enter }) := by
    rw [run_answerEntry, carryOut_health]
  rw [answerBody, h]
  cases entry with
  | array items => exact absurd rfl (hsingle items)
  | _ => exact hentry

/-! ## Limited time -/

/-- Work that may be limited in time is the work without limit as long as it is done in time. -/
structure Within (limit : Nat) (x y : Work α) : Prop where
  done : ∀ s, ∃ a, (y.run s).1 = some a
  onward : ∀ s, s.clock.now ≤ (y.run s).2.clock.now
  same : ∀ s, (y.run s).2.clock.now ≤ limit → x.run s = y.run s

theorem within_pure (limit : Nat) (a : α) : Within limit (pure a) (pure a) where
  done _ := ⟨a, rfl⟩
  onward _ := Nat.le_refl _
  same _ _ := rfl

theorem Within.bind {x y : Work α} {f g : α → Work β} (hx : Within limit x y)
    (hf : ∀ a, Within limit (f a) (g a)) : Within limit (x >>= f) (y >>= g) := by
  have hstep : ∀ s, ∃ a, y.run s = (some a, (y.run s).2) ∧
      (y >>= g).run s = (g a).run (y.run s).2 := by
    intro s
    obtain ⟨a, ha⟩ := hx.done s
    have hrun : y.run s = (some a, (y.run s).2) := Prod.ext ha rfl
    exact ⟨a, hrun, run_bind_of_some hrun⟩
  refine ⟨fun s => ?_, fun s => ?_, fun s hs => ?_⟩
  · obtain ⟨a, -, hrun⟩ := hstep s
    rw [hrun]
    exact (hf a).done _
  · obtain ⟨a, -, hrun⟩ := hstep s
    rw [hrun]
    exact Nat.le_trans (hx.onward s) ((hf a).onward _)
  · obtain ⟨a, hy, hrun⟩ := hstep s
    rw [hrun] at hs ⊢
    -- the first part is done no later than the whole
    have hfirst := hx.same s (Nat.le_trans ((hf a).onward _) hs)
    rw [run_bind_of_some (hfirst.trans hy)]
    exact (hf a).same _ hs

theorem within_call (limit : Nat) (method : String) (params : Json) :
    Within limit (call (some limit) method params) (call none method params) where
  done s := ⟨(s.call method params).1, rfl⟩
  onward s := Flight.now_le_finish _ s.clock _
  same s hs := by
    have hact : (act (Server.call method params)).run s =
        (some (s.call method params).1, (s.call method params).2) := rfl
    have hget : (get : Work Server).run (s.call method params).2 =
        (some (s.call method params).2, (s.call method params).2) := rfl
    have hdone : (s.call method params).2.clock.now ≤ limit := hs
    rw [call, run_bind_of_some hact, run_bind_of_some hget]
    dsimp only
    rw [if_pos hdone]
    rfl

theorem within_answerEntry (limit : Nat) (entry : Json) :
    Within limit (answerEntry (some limit) entry) (answerEntry none entry) := by
  rw [answerEntry, answerEntry]
  cases Request.ofJson entry with
  | error e => exact within_pure limit _
  | ok request => exact (within_call limit _ _).bind fun _ => within_pure limit _

theorem within_answerEntries (limit : Nat) (entries : List Json) :
    Within limit (answerEntries (some limit) entries) (answerEntries none entries) := by
  induction entries with
  | nil => exact within_pure limit []
  | cons entry rest ih =>
    exact (within_answerEntry limit entry).bind fun _ => ih.bind fun _ => within_pure limit _

theorem within_answerBody (limit : Nat) (body : List UInt8) :
    Within limit (answerBody (some limit) body) (answerBody none body) := by
  rw [answerBody, answerBody]
  cases Json.parseSource (.ofBytes body) with
  | error message => exact within_pure limit _
  | ok v =>
    cases v with
    | array entries =>
      cases entries with
      | nil => exact within_pure limit _
      | cons entry rest =>
        exact (within_answerEntries limit (entry :: rest)).bind fun _ => within_pure limit _
    | _ => exact within_answerEntry limit _

/-- **A request that is done in time is answered as if it had all the time.** -/
theorem answer_of_timely (h : (answer none body s).2.clock.now ≤ limit) :
    answer (some limit) body s = answer none body s := by
  rw [answer, answer, (within_answerBody limit body).same _ h]

/-- Where there is no limit, every body is answered. -/
theorem exists_answer (body : List UInt8) (s : Server) :
    ∃ result, (answer none body s).1 = some result :=
  (within_answerBody 0 body).done _

/-! ## On the web -/

/-- **The response on the web that an answer makes:** it has the value, or nothing. -/
def reply : Option Json → Http.Response
  | none => ⟨204, [], ""⟩
  | some v => ⟨200, [("content-type", "application/json")], v.text⟩

/-- What is posted to the path of remote calls is answered, unless it is too long. -/
theorem respond_eq {uptime : Nat} (hshort : body.length ≤ Http.bodyLimit) :
    Http.respond uptime limit body .remoteCalls s =
      ((answer (some limit) body s).1.map reply, (answer (some limit) body s).2) := by
  rw [Http.respond, if_neg (Nat.not_lt.2 hshort)]
  obtain ⟨result, s'⟩ := answer (some limit) body s
  match result with
  | none => rfl
  | some none => rfl
  | some (some v) => rfl

end Rpc

end Switchboard
