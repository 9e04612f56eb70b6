import Switchboard.Proofs.Dispatch.Failures
import Switchboard.Proofs.Server.Lifecycle
/-!
# Where operations come from

Every operation that a server has is a standard one, or a client has registered it, or a document
has defined it (`Deployment.origin_of_mem`). A document defines expressions only. So where no client
brings code of its own, all code is that of built-in operations (`Deployment.codeBuiltIn_run`).
-/

namespace Switchboard

open Registry

namespace Deployment

variable {d : Deployment} {c : Call} {ops std : List Operation} {op : Operation}
variable {calls : List Call}

/-- The call asks for the registration of an operation, for good or not. -/
def Call.Registers (c : Call) (op : Operation) : Prop :=
  c = .client (.register op) ∨ c = .client (.registerPermanently op)

/-! ## One step -/

theorem mem_of_client {call : Session.Call}
    (hop : op ∈ (d.step (.client call)).registry.operations) :
    op ∈ d.registry.operations ∨ Call.Registers (.client call) op := by
  have hadd {new : Operation} (hop : op ∈ (d.registry.add new).operations) :
      op ∈ d.registry.operations ∨ op = new := by
    rw [add_operations, List.mem_append, List.mem_singleton] at hop
    exact hop
  rw [step] at hop
  rcases d.session.step_cases call with hstep | ⟨new, rfl, -, hstep⟩ | ⟨new, rfl, -, hstep⟩ |
    ⟨i, h, rfl, -, -, hstep⟩
  · rw [hstep] at hop
    exact .inl hop
  · rw [hstep] at hop
    obtain hold | rfl := hadd hop
    · exact .inl hold
    · exact .inr (.inl rfl)
  · rw [hstep] at hop
    obtain hold | rfl := hadd hop
    · exact .inl hold
    · exact .inr (.inr rfl)
  · rw [hstep] at hop
    exact .inl (remove_operations_sublist.subset hop)

theorem mem_of_install {s : Server} (w : s.registry.WellFormed) (op : Operation)
    (offered : Except LoadError (List Operation))
    (hop : op ∈ (s.install offered).2.registry.operations) :
    op ∈ s.registry.operations ∨
      op ∈ if (s.install offered).1.isOk then offered.toOption.getD [] else [] := by
  rcases Server.install_cases w offered with
    ⟨e, n, -, -, -, hinstall⟩ | ⟨new, ys, n, rfl, -, hys, -, -, -, hinstall⟩
  · rw [hinstall] at hop
    exact .inl hop
  · rw [hinstall, operations, List.map_append, List.mem_append, hys] at hop
    rw [hinstall]
    exact hop

theorem mem_of_teardown (h : Accounted std d ops)
    (hop : op ∈ d.server.teardown.2.registry.operations) : op ∈ d.registry.operations := by
  rw [h.teardown_eq, operations_without] at hop
  exact (List.mem_filter.1 hop).1

/-- **A step brings in** what a client registers, or what is installed, and nothing else. -/
theorem mem_of_step (h : Accounted std d ops) (hop : op ∈ (d.step c).registry.operations) :
    op ∈ d.registry.operations ∨ c.Registers op ∨ op ∈ d.installs c := by
  have w := h.sound.wellFormed
  cases c with
  | client call => exact (mem_of_client hop).imp_right .inl
  | load text =>
    have hinstall := mem_of_install w op (Definitions.operations text)
    rw [← Server.load_eq] at hinstall
    exact (hinstall hop).imp_right .inr
  | teardown => exact .inl (mem_of_teardown h hop)
  | start =>
    -- Whether or not it succeeds, a start brings in what its installation does.
    have hinstall := mem_of_install w op d.file.operations
    rw [step] at hop
    rw [installs]
    cases hresult : d.server.install d.file.operations with
    | mk result s =>
      rw [hresult] at hinstall
      cases result with
      | error e =>
        rw [Server.start_of_refused hresult] at hop ⊢
        exact (hinstall hop).imp_right .inr
      | ok n =>
        rw [Server.start_of_installed hresult] at hop ⊢
        exact (hinstall hop).imp_right .inr
  | shutdown terminate => exact .inl (mem_of_teardown h hop)
  | edit file => exact .inl hop

/-! ## Whole lives -/

/-- **An operation that a server has** was there at first, or a client has registered it since, or
it is what a definition describes. -/
theorem origin_of_mem (h : Accounted std d ops) (hop : op ∈ (d.run calls).registry.operations) :
    op ∈ d.registry.operations ∨ (∃ c ∈ calls, c.Registers op) ∨
      ∃ definition : Definition, definition.Describes op := by
  induction calls generalizing d ops with
  | nil => exact .inl hop
  | cons c rest ih =>
    rcases ih (h.step c) hop with hfirst | ⟨c', hc', hregisters⟩ | hdescribed
    · rcases mem_of_step h hfirst with hold | hregisters | hinstalls
      · exact .inl hold
      · exact .inr (.inl ⟨c, List.mem_cons_self, hregisters⟩)
      · exact .inr (.inr (exists_describes_of_mem_installs hinstalls))
    · exact .inr (.inl ⟨c', List.mem_cons_of_mem _ hc', hregisters⟩)
    · exact .inr (.inr hdescribed)

/-- **Where no client brings code, all code is built in.** -/
theorem codeBuiltIn_run (settings : Settings) (randomBits : Nat → Nat)
    (hplain : ∀ c ∈ calls, ∀ op, c.Registers op → ∀ run, op.handler ≠ .native run) :
    ((new settings randomBits).run calls).registry.CodeBuiltIn := by
  intro op hop
  rcases origin_of_mem (Accounted.start settings randomBits) hop with
    hstandard | ⟨c, hc, hregisters⟩ | ⟨definition, hdescribes⟩
  · rw [operations_new, Deployment.standard, List.mem_append, List.mem_singleton] at hstandard
    refine hstandard.imp_right ?_
    rintro rfl run hrun
    cases hrun
  · exact .inr (hplain c hc op hregisters)
  · refine .inr fun run hrun => ?_
    rw [hdescribes.handler] at hrun
    cases hrun

end Deployment

end Switchboard
