import Switchboard.Proofs.Catalog.RoundTrip
import Switchboard.Proofs.Dispatch.Causes
import Switchboard.Proofs.Server.Encoding
import Switchboard.Proofs.Server.Origin
/-!
# What the catalog promises

The catalog and the binding of arguments read the same declarations, each on its own. Here they are
compared: who goes by what a server publishes knows which calls lack an argument, which one, and
which modes there are (`Deployment.publicationLaws`).
-/

namespace Switchboard

open Json (given)

/-! ## Reading a catalog -/

/-- The first published parameter that is required and to which an object gives nothing. -/
def CatalogMethod.missing? (fields : Json.Fields) (m : CatalogMethod) : Option CatalogParam :=
  m.params.find? fun p => p.required && (given fields p.name).isNull

/-- The texts that a published parameter may be, by its schema. -/
def CatalogParam.Offers (p : CatalogParam) (names : List String) : Prop :=
  ∃ fields, p.schema = .object fields ∧ given fields "enum" = .array (names.map .string)

namespace Catalog

variable {op : Operation} {info : CatalogInfo} {ops : List Operation} {m : CatalogMethod}

/-- A catalog lacks an argument where binding does. -/
theorem missing?_describeOperation (op : Operation) (fields : Json.Fields) :
    (describeOperation op).missing? fields =
      (Arguments.missing? fields op.parameters).map describeParameter := by
  rw [CatalogMethod.missing?, Arguments.missing?, describeOperation]
  dsimp only
  rw [List.find?_map]
  rfl

theorem names_params (op : Operation) :
    (describeOperation op).params.map (·.name) = op.parameters.map (·.name) := by
  rw [describeOperation]
  dsimp only
  rw [List.map_map]
  rfl

theorem names_describe (info : CatalogInfo) (ops : List Operation) :
    (describe info ops).methods.map (·.name) = ops.map (·.name) := by
  rw [describe]
  dsimp only
  rw [List.map_map]
  rfl

theorem exists_of_mem_methods (h : m ∈ (describe info ops).methods) :
    ∃ op ∈ ops, m = describeOperation op := by
  obtain ⟨op, hop, rfl⟩ := List.mem_map.1 h
  exact ⟨op, hop, rfl⟩

end Catalog

/-! ## Calls as published -/

/-- An error that says that an argument is missing, or that all of them together are not right. -/
def CallError.LacksArguments : CallError → Prop
  | .missingParameter _ _ => True
  | .invalidParams _ _ => True
  | _ => False

namespace Registry

variable {r : Registry} {op : Operation} {fields : Json.Fields} {bits : Nat → Nat} {c : Task.Clock}
variable {e : CallError} {args : Arguments}

/-- Code that is not built in ends with the error, of the operation of the name. -/
def ForeignCodeThrows (r : Registry) (name : String) (e : CallError) : Prop :=
  ∃ op args, r.lookup? name = some op ∧ op ∉ Toolbox.operations ∧ op.Throws args e

/-- Where all code is built in, there is no other. -/
theorem CodeBuiltIn.not_foreignCodeThrows (h : r.CodeBuiltIn) (name : String) (e : CallError) :
    ¬ r.ForeignCodeThrows name e := by
  rintro ⟨op, args, hop, hforeign, run, bits, c, hrun, -⟩
  rcases h op (mem_of_lookup? hop) with hbuiltin | hnone
  · exact hforeign hbuiltin
  · exact hnone run hrun

/-- **Where an argument is missing,** the call fails for the first such. -/
theorem outcome_of_missing (hop : r.lookup? op.name = some op)
    (hnames : (op.parameters.map (·.name)).Nodup) {p : Parameter}
    (hmissing : Arguments.missing? fields op.parameters = some p) :
    r.outcome bits c op.name (.object fields) = .error (.missingParameter op.name p.name) :=
  run_dispatch_eq_error_iff.2
    (.arguments hop (.binding (Arguments.bind_object_of_missing hnames hmissing op.name)))

/-- **Where none is missing,** nothing in the server says that one is, or that all of them together
are not right. -/
theorem foreignCodeThrows_of_given (hop : r.lookup? op.name = some op)
    (hnames : (op.parameters.map (·.name)).Nodup)
    (hgiven : Arguments.missing? fields op.parameters = none)
    (he : r.outcome bits c op.name (.object fields) = .error e) (hlacks : e.LacksArguments) :
    r.ForeignCodeThrows op.name e := by
  have hbind := Arguments.bind_object_of_given hnames hgiven op.name
  cases run_dispatch_eq_error_iff.1 he with
  | unregistered missing =>
    rw [still_registry, hop] at missing
    cases missing
  | arguments found refused =>
    rw [still_registry, hop] at found
    cases found
    cases refused with
    | binding refused =>
      rw [Operation.bind, hbind] at refused
      cases refused
    | coercion handler bound refused =>
      obtain ⟨i, reason, rfl⟩ := Operation.invalidates_context _ _ e refused
      cases hlacks
  | code found fails =>
    rw [still_registry, hop] at found
    cases found
    obtain ⟨run, args, hrun, hbound, hthrown⟩ := fails
    have hthrows : op.Throws args e := ⟨run, _, _, hrun, hthrown⟩
    refine ⟨op, args, hop, fun hbuiltin => ?_, hthrows⟩
    -- Built-in code says so only of a required argument that is not there, and all of them are.
    cases Toolbox.complains_of_throws hbuiltin hthrows with
    | invalid i reason => cases hlacks
    | missing required absent =>
      obtain ⟨p, hp, hrequired⟩ := required
      exact Arguments.value?_ne_none_of_bind hbound hp hrequired absent
  | expression found fails => cases hlacks

end Registry

/-! ## Modes as published -/

namespace Registry

open Catalog Toolbox

variable {r : Registry} {name mode value : String} {names : List String} {payload : Json}
variable {m : CatalogMethod} {info : CatalogInfo} {bits : Nat → Nat} {c : Task.Clock}

theorem lookup_eq_none_iff {α : Type} {named : List (String × α)} :
    named.lookup mode = none ↔ mode ∉ named.map (·.1) := by
  rw [List.lookup_eq_none_iff, List.mem_map]
  constructor
  · rintro h ⟨p, hp, rfl⟩
    have hne := h p hp
    rw [bne_self_eq_false] at hne
    cases hne
  · exact fun h p hp => bne_iff_ne.2 fun heq => h ⟨p, hp, heq.symm⟩

/-- The mode is refused. -/
def RefusesMode (r : Registry) (bits : Nat → Nat) (c : Task.Clock) (name : String)
    (payload : Json) : Prop :=
  ∃ reason, r.outcome bits c name payload = .error (.invalidParameter name "mode" reason)

/-- It is refused exactly if it has no entry in a table, where an entry decides. -/
theorem refusesMode_iff {α : Type} {named : List (String × α)}
    (known : ∀ m, named.lookup mode = some m → ¬ r.RefusesMode bits c name payload)
    (unknown : named.lookup mode = none → r.RefusesMode bits c name payload) :
    r.RefusesMode bits c name payload ↔ mode ∉ named.map (·.1) := by
  rw [← lookup_eq_none_iff]
  cases hm : named.lookup mode with
  | some m => exact iff_of_false (known m hm) (Option.some_ne_none m)
  | none => exact iff_of_true (unknown hm) rfl

theorem Encodes.refusesMode_encode_iff (h : r.Encodes)
    (hpayload : GivesModeAndText (some mode) value payload) :
    r.RefusesMode bits c "base64-encode" payload ↔ mode ∉ EncodeMode.named.map (·.1) := by
  have hmode : (some mode).getD "DEFAULT" = mode := rfl
  refine refusesMode_iff (fun m hm => ?_) fun hm => ?_
  · rintro ⟨reason, hrefused⟩
    rw [← hmode] at hm
    rw [h.encode hm value bits c payload hpayload] at hrefused
    cases hrefused
  · rw [← hmode] at hm
    obtain ⟨reason, hanswer⟩ := h.encode_of_unknown hm value
    exact ⟨reason, hanswer bits c payload hpayload⟩

theorem Encodes.refusesMode_decode_iff (h : r.Encodes)
    (hpayload : GivesModeAndText (some mode) value payload) :
    r.RefusesMode bits c "base64-decode" payload ↔ mode ∉ DecodeMode.named.map (·.1) := by
  have hmode : (some mode).getD "DEFAULT" = mode := rfl
  refine refusesMode_iff (fun m hm => ?_) fun hm => ?_
  · rintro ⟨reason, hrefused⟩
    rw [← hmode] at hm
    obtain ⟨t, -, hanswer⟩ | ⟨reason', hanswer⟩ := h.decode_cases hm value
    · rw [hanswer bits c payload hpayload] at hrefused
      cases hrefused
    · -- A refusal for the value is none for the mode.
      rw [hanswer bits c payload hpayload] at hrefused
      simp only [Except.error.injEq, CallError.invalidParameter.injEq, String.reduceEq] at hrefused
      exact hrefused.2.1
  · rw [← hmode] at hm
    obtain ⟨reason, hanswer⟩ := h.decode_of_unknown hm value
    exact ⟨reason, hanswer bits c payload hpayload⟩

/-- The published parameter of an operation with a mode offers its modes. -/
theorem exists_offers_of_carriesOut {documentation valueText : String} {n : String}
    {f : Arguments → Except CallError Json} (w : r.WellFormed)
    (hcode : r.CarriesOut name (base64Parameters documentation (n :: names) valueText) f)
    (hm : m ∈ (describe info r.operations).methods) (hname : m.name = name) :
    ∃ p ∈ m.params, p.name = "mode" ∧ p.Offers (n :: names) := by
  obtain ⟨op, hop, rfl⟩ := exists_of_mem_methods hm
  obtain ⟨op', hop', -, hparameters, -⟩ := hcode
  have hfound := lookup?_of_mem w.distinct hop
  rw [show op.name = name from hname, hop'] at hfound
  cases hfound
  refine ⟨describeParameter (modeParameter documentation (n :: names)), ?_, rfl, _, rfl, rfl⟩
  rw [describeOperation, hparameters]
  exact List.mem_cons_self

end Registry

/-! ## The laws of publication -/

/-- **What a registry publishes is true of it,** which some calls have led to. -/
structure PublicationLaws (info : CatalogInfo) (calls : List Deployment.Call) (r : Registry)
    (catalog : Catalog) : Prop where
  /-- This is the catalog that is published, -/
  published : ∀ bits c payload, payload = .null ∨ payload.isObject = true →
    r.outcome bits c "openrpc" payload = .ok catalog.toJson
  /-- and can be read from what is. -/
  readable : Catalog.ofText catalog.toJson.text = .ok catalog
  /-- Its methods are the operations in their order, each as it is declared, -/
  methods : catalog.methods = r.operations.map Catalog.describeOperation
  /-- so they have their names, -/
  names : catalog.methods.map (·.name) = r.operations.map (·.name)
  /-- which are distinct, -/
  distinct : (catalog.methods.map (·.name)).Nodup
  /-- and the publishing operation is one of them. -/
  itself : "openrpc" ∈ catalog.methods.map (·.name)
  /-- Binding fails exactly if a published parameter is missing, and for the first such. -/
  binding : ∀ m ∈ catalog.methods, (m.params.map (·.name)).Nodup → ∀ fields, ∃ op,
    r.lookup? m.name = some op ∧ ∀ e, op.bind (.object fields) = .error e ↔
      ∃ p, m.missing? fields = some p ∧ e = .missingParameter m.name p.name
  /-- Then so does the call. -/
  missing : ∀ m ∈ catalog.methods, (m.params.map (·.name)).Nodup → ∀ fields p,
    m.missing? fields = some p → ∀ bits c,
      r.outcome bits c m.name (.object fields) = .error (.missingParameter m.name p.name)
  /-- Otherwise no call fails in such a way, or because of all arguments together; only code that a
  client has brought could say so. -/
  given : ∀ m ∈ catalog.methods, (m.params.map (·.name)).Nodup → ∀ fields,
    m.missing? fields = none → ∀ bits c e, r.outcome bits c m.name (.object fields) = .error e →
      e.LacksArguments → r.ForeignCodeThrows m.name e
  /-- Unless clients do bring code, there is none. -/
  plain : (∀ call ∈ calls, ∀ op, call.Registers op → ∀ run, op.handler ≠ .native run) →
    ∀ name e, ¬ r.ForeignCodeThrows name e
  /-- Of the modes of base64, those are refused that are not published. -/
  modes : ∀ m ∈ catalog.methods, m.name = "base64-encode" ∨ m.name = "base64-decode" →
    ∃ p ∈ m.params, p.name = "mode" ∧ ∃ names, p.Offers names ∧
      ∀ mode value payload bits c, Toolbox.GivesModeAndText (some mode) value payload →
        (r.RefusesMode bits c m.name payload ↔ mode ∉ names)

namespace Registry

open Catalog

variable {r : Registry} {info : CatalogInfo} {m : CatalogMethod} {fields : Json.Fields}

theorem bind_eq_error_iff {op : Operation} (hnames : (op.parameters.map (·.name)).Nodup)
    (fields : Json.Fields) (e : CallError) : op.bind (.object fields) = .error e ↔
      ∃ p, (describeOperation op).missing? fields = some p ∧
        e = .missingParameter op.name p.name := by
  rw [missing?_describeOperation, Operation.bind]
  cases hmissing : Arguments.missing? fields op.parameters with
  | none =>
    rw [Arguments.bind_object_of_given hnames hmissing]
    refine iff_of_false (fun h => (by cases h)) ?_
    rintro ⟨_, h, -⟩
    cases h
  | some p =>
    rw [Arguments.bind_object_of_missing hnames hmissing]
    refine ⟨fun h => ⟨_, rfl, (Except.error.inj h).symm⟩, ?_⟩
    rintro ⟨_, hp, rfl⟩
    cases hp
    rfl

/-- The publishing operation gives the catalog of all operations. -/
theorem outcome_openrpc (hitself : r.lookup? "openrpc" = some (Toolbox.catalogOperation info))
    {payload : Json} (hpayload : payload = .null ∨ payload.isObject = true) (bits : Nat → Nat)
    (c : Task.Clock) :
    r.outcome bits c "openrpc" payload = .ok (describe info r.operations).toJson := by
  -- It has no parameters, so that whatever an object gives is left over.
  have hbind : ∃ args, (Toolbox.catalogOperation info).bind payload = .ok args := by
    cases payload with
    | null => exact ⟨_, rfl⟩
    | object fields => exact ⟨_, rfl⟩
    | _ => rcases hpayload with h | h <;> cases h
  obtain ⟨args, hbind⟩ := hbind
  rw [outcome, dispatch, callByName, Task.run, still_registry, hitself]
  dsimp only
  rw [Operation.invoke_of_publish rfl hbind]
  rfl

/-- **A registry that publishes its catalog and encodes** keeps what it promises. -/
theorem WellFormed.publishes (w : r.WellFormed) (hencodes : r.Encodes)
    (hitself : r.lookup? "openrpc" = some (Toolbox.catalogOperation info))
    {calls : List Deployment.Call}
    (hplain : (∀ call ∈ calls, ∀ op, call.Registers op → ∀ run, op.handler ≠ .native run) →
      r.CodeBuiltIn) :
    PublicationLaws info calls r (describe info r.operations) := by
  have hlookup {op : Operation} (hop : op ∈ r.operations) : r.lookup? op.name = some op :=
    lookup?_of_mem w.distinct hop
  refine
    { published := fun bits c payload hpayload => outcome_openrpc hitself hpayload bits c
      readable := ofText_describe info r.operations
      methods := rfl
      names := names_describe _ _
      distinct := names_describe info r.operations ▸ w.distinct
      itself := ?_
      binding := fun m hm hnames fields => ?_
      missing := fun m hm hnames fields p hp bits c => ?_
      given := fun m hm hnames fields hgiven bits c e he hlacks => ?_
      plain := fun hcalls => (hplain hcalls).not_foreignCodeThrows
      modes := fun m hm hname => ?_ }
  · rw [names_describe]
    exact List.mem_map_of_mem (mem_of_lookup? hitself)
  · obtain ⟨op, hop, rfl⟩ := exists_of_mem_methods hm
    rw [names_params] at hnames
    exact ⟨op, hlookup hop, bind_eq_error_iff hnames fields⟩
  · obtain ⟨op, hop, rfl⟩ := exists_of_mem_methods hm
    rw [names_params] at hnames
    rw [missing?_describeOperation, Option.map_eq_some_iff] at hp
    obtain ⟨q, hq, rfl⟩ := hp
    exact outcome_of_missing (hlookup hop) hnames hq
  · obtain ⟨op, hop, rfl⟩ := exists_of_mem_methods hm
    rw [names_params] at hnames
    rw [missing?_describeOperation, Option.map_eq_none_iff] at hgiven
    exact foreignCodeThrows_of_given (hlookup hop) hnames hgiven he hlacks
  · rcases hname with hname | hname
    · obtain ⟨documentation, value, hcode⟩ := hencodes.base64_encode
      obtain ⟨p, hp, hmode, hoffers⟩ := exists_offers_of_carriesOut w hcode hm hname
      rw [hname]
      exact ⟨p, hp, hmode, _, hoffers, fun mode value payload bits c hpayload =>
        hencodes.refusesMode_encode_iff hpayload⟩
    · obtain ⟨documentation, value, hcode⟩ := hencodes.base64_decode
      obtain ⟨p, hp, hmode, hoffers⟩ := exists_offers_of_carriesOut w hcode hm hname
      rw [hname]
      exact ⟨p, hp, hmode, _, hoffers, fun mode value payload bits c hpayload =>
        hencodes.refusesMode_decode_iff hpayload⟩

end Registry

namespace Deployment

/-- **What a server publishes is true of it,** at every moment of its life. -/
theorem publicationLaws (settings : Settings) (randomBits : Nat → Nat) (calls : List Call) :
    PublicationLaws ⟨settings.title, settings.version⟩ calls
      ((new settings randomBits).run calls).registry
      (Catalog.describe ⟨settings.title, settings.version⟩
        ((new settings randomBits).run calls).registry.operations) := by
  have haccount := (Accounted.start settings randomBits).run calls
  have hitself := haccount.lookup?_standard
    (List.mem_append_right Toolbox.operations (List.mem_singleton_self _))
  exact Registry.WellFormed.publishes haccount.sound.wellFormed (encodes settings randomBits calls)
    hitself (codeBuiltIn_run settings randomBits)

end Deployment

end Switchboard
