import BatchIngestion.EnvelopeUse
import BatchIngestion.Operators

/-!
# What a Spark attempt has done

A Spark attempt that returns has evaluated its DataFrame, by the count or by the save. What
it appends is all that it changes under any path of the sink, and the messages that a
queue accepts meanwhile carry the failure of the attempt.
-/

namespace BatchIngestion

open Python Library Procedure SparkAction

variable {ρ : Type}

/-- An adapter is built from the parameters of an operator, with some secret. -/
def QueueAdapter.BuiltFrom (adapter : QueueAdapter) (metricType : MetricAdapterType)
    (raw : MetricConfigRaw) : Prop :=
  ∃ getSecret, buildMetricAdapter metricType raw getSecret = .ok adapter

/-- A message carries a payload: an adapter with the parameters of an operator hands it over. -/
def QueueMessage.Carries (m : QueueMessage) (metricType : MetricAdapterType)
    (raw : MetricConfigRaw) (payload : Payload) : Prop :=
  ∃ (adapter : QueueAdapter) (now : Text), adapter.BuiltFrom metricType raw ∧
    adapter.message now (payload.map fun (k, v) => (k, v.toValue)) = .ok m

variable {world : SparkWorld ρ}

/-- What holds anyway holds when a procedure returns. -/
theorem returns_of_holds {α : Type} {p : Prop} (h : p) (x : SparkAction ρ α) :
    Returns x fun _ => p :=
  Returns.any.conseq (fun _ hs => hs) fun _ _ _ => h

/-- A write that returns has saved. -/
theorem SinkAdapter.returns_write (sink : SinkAdapter) (df : DataFrame ρ) :
    Returns (sink.write world df) fun _ => world.call .save = .ok () := by
  refine Triple.onException ?_ fun e => Returns.any
  refine Returns.any.bind fun _ _ => Returns.any.bind fun _ _ => Returns.any.bind fun _ _ => ?_
  refine Returns.any.bind fun _ _ => Returns.any.bind fun _ _ => Returns.any.bind fun _ _ => ?_
  refine Returns.any.bind fun _ _ => (Returns.attempt _).bind fun _ hsave => ?_
  exact returns_of_holds hsave _

/-- Appending to a path keeps what is stored. -/
theorem SinkAdapter.infix_saveInto (sink : Text → List ρ) (path : Text) (rows : List ρ)
    (path' : Text) : sink path' <:+: saveInto sink .append path rows path' := by
  rw [saveInto, if_pos rfl]
  by_cases hp : path' = path
  · subst hp
    rw [Function.update_self]
    exact (List.prefix_append _ _).isInfix
  · simp only [Function.update_of_ne hp, List.infix_rfl]

/-- Appended rows are stored. -/
theorem SinkAdapter.infix_saveInto_self (sink : Text → List ρ) (path : Text) (rows : List ρ) :
    rows <:+: saveInto sink .append path rows path := by
  rw [saveInto, if_pos rfl, Function.update_self]
  exact (List.suffix_append _ _).isInfix

namespace SparkRunOperator

/-- A read and write that returns has evaluated the DataFrame. -/
theorem returns_readAndWrite (ctx : RunContext) (sink : SinkAdapter) :
    Returns (readAndWrite world ctx sink) fun _ =>
      world.call (if ctx.countRecords then .count else .save) = .ok () := by
  refine Returns.any.bind fun _ _ => Returns.any.bind fun _ _ => ?_
  cases hcounts : ctx.countRecords with
  | true =>
    have hcount : Returns (countRecords world ctx) fun _ => world.call .count = .ok () := by
      rw [countRecords, if_pos hcounts]
      refine Returns.any.bind fun _ _ => (Returns.attempt _).bind fun _ h => ?_
      exact returns_of_holds h _
    exact hcount.bind fun _ h => returns_of_holds h _
  | false =>
    refine Returns.any.bind fun _ _ => Returns.any.bind fun _ _ => ?_
    exact (sink.returns_write _).bind fun _ h => returns_of_holds h _

/-- A Spark task that returns has evaluated its DataFrame. -/
theorem evaluated_of_execute {op : SparkRunOperator} {dagId runId : Text} {raw : ContextDict}
    {ctx : RunContext} {source : TableSourceConfig} (hdecoded : RunContext.fromDict raw = .ok ctx)
    (htable : ctx.sourceConfig = .table source)
    (hxcom : ∀ raw', world.xcom = .ok (some raw') → raw' = raw) {s : SparkState ρ}
    (h : (op.execute world dagId runId s).result = .ok ()) :
    world.call (if ctx.countRecords then .count else .save) = .ok () := by
  have hreturns : Returns (op.execute world dagId runId) fun _ =>
      world.call (if ctx.countRecords then .count else .save) = .ok () := by
    refine Triple.onException ?_ fun e => Returns.any
    refine (returns_setUp op).bind fun task htask => ?_
    obtain ⟨raw', ctx', hraw, hdecoded', rfl⟩ := htask
    obtain rfl := hxcom raw' hraw
    obtain rfl : ctx' = ctx := Except.ok.inj (hdecoded'.symm.trans hdecoded)
    refine Returns.any.bind fun _ _ => Returns.any.bind fun _ _ => ?_
    have hsource : ctx'.constructSource.sourceConfig = .table source ∧
        ctx'.constructSource.countRecords = ctx'.countRecords := by
      unfold RunContext.constructSource
      rw [htable]
      cases ctx'.readType <;> exact ⟨htable, rfl⟩
    simp only [hsource.1, ← hsource.2]
    exact returns_readAndWrite _ _
  exact (hreturns s trivial).2 () h

/-- What an inline push has accepted is the message of the adapter that it builds. -/
theorem message_of_pushMetricInline {payload : Dict Text Value} {metricType : MetricAdapterType}
    {raw : MetricConfigRaw} {world : MetricWorld} {m : QueueMessage}
    (hm : m ∈ acceptedMessages (pushMetricInline payload metricType raw world ()).log) :
    ∃ adapter : QueueAdapter, adapter.BuiltFrom metricType raw ∧
      adapter.message world.backend.now payload = .ok m := by
  cases hbuilt : buildMetricAdapter metricType raw world.getSecret with
  | error e =>
    rw [pushMetricInline, hbuilt] at hm
    cases hm
  | ok adapter =>
    cases hvalid : world.validate with
    | error e =>
      rw [pushMetricInline, hbuilt, hvalid] at hm
      cases hm
    | ok valid =>
      refine ⟨adapter, ⟨_, hbuilt⟩, QueueAdapter.message_of_accepted ?_⟩
      have hbody : (do
          let adapter ← MetricAction.step (buildMetricAdapter metricType raw world.getSecret)
          let _ ← MetricAction.step world.validate
          adapter.publish world.backend payload : MetricAction Unit) () =
          adapter.publish world.backend payload () := by
        rw [hbuilt, hvalid]
        rfl
      have hlog : (pushMetricInline payload metricType raw world ()).log =
          (adapter.publish world.backend payload ()).log := by
        simp only [pushMetricInline, Procedure.suppress, hbody]
        split
        · rfl
        · exact List.append_nil _
      rwa [hlog] at hm

/-- The steps in the `try` of `execute` send no message. -/
theorem sparkAccepted_body (op : SparkRunOperator) (s : SparkState ρ) :
    sparkAccepted (op.body world s).log = [] := by
  have hlogs : Logs (fun w => w.metric? = none) (op.body world) :=
    logs_body (fun _ => rfl) (fun _ => rfl) (fun _ _ _ _ => rfl) (fun _ _ _ => rfl)
      fun _ _ _ => rfl
  rw [sparkAccepted, List.filterMap_eq_nil_iff.mpr (hlogs s trivial).1]
  rfl

/-- A message that the failure metric leads to carries the failure. -/
theorem carries_of_pushFailureMetric {op : SparkRunOperator} {dagId runId : Text} {e : PyExc}
    {s : SparkState ρ} {m : QueueMessage}
    (hm : m ∈ sparkAccepted (op.pushFailureMetric world dagId runId e s).log) :
    ∃ metricType raw, op.metricType = some metricType ∧ op.metricConfigRaw = some raw ∧
      m.Carries metricType raw (failurePayload dagId runId (PyExc.text e)) := by
  cases htype : op.metricType with
  | none =>
    rw [pushFailureMetric, htype] at hm
    cases hm
  | some metricType =>
    cases hraw : op.metricConfigRaw with
    | none =>
      rw [pushFailureMetric, htype, hraw] at hm
      cases hm
    | some raw =>
      rw [pushFailureMetric, htype, hraw] at hm
      have hinline : m ∈ acceptedMessages (pushMetricInline (failureValues dagId runId e)
          metricType raw world.metric ()).log := by
        change m ∈ acceptedMessages (List.filterMap SparkEvent.metric?
          (.pushing _ :: List.map SparkEvent.metric _)) at hm
        rwa [List.filterMap_cons_none rfl, List.filterMap_map,
          show SparkEvent.metric? ∘ SparkEvent.metric = some from rfl, List.filterMap_some] at hm
      obtain ⟨adapter, hmessage⟩ := message_of_pushMetricInline hinline
      exact ⟨metricType, raw, rfl, rfl, adapter, world.metric.backend.now, hmessage⟩

/-- The messages that are accepted in a Spark attempt carry its failure. -/
theorem carries_of_accepted {op : SparkRunOperator} {dagId runId : Text} {s : SparkState ρ}
    {m : QueueMessage} (hm : m ∈ sparkAccepted (op.execute world dagId runId s).log) :
    ∃ e metricType raw, (op.execute world dagId runId s).result = .error e ∧
      op.metricType = some metricType ∧ op.metricConfigRaw = some raw ∧
      m.Carries metricType raw (failurePayload dagId runId (PyExc.text e)) := by
  have hbody : sparkAccepted (op.body world s).log = [] := op.sparkAccepted_body s
  cases hresult : (op.execute world dagId runId s).result with
  | ok a =>
    have hlog : (op.execute world dagId runId s).log = (op.body world s).log := by
      cases hres : (op.body world s).result with
      | ok _ => rw [execute, onException_of_ok hres]
      | error e =>
        obtain ⟨_, hpush⟩ := (op.harmless_pushFailureMetric dagId runId e (op.body world s).state).1
        rw [execute, onException_of_error hres, hpush] at hresult
        cases hresult
    rw [hlog, hbody] at hm
    cases hm
  | error e =>
    have hpush : m ∈ sparkAccepted
        (op.pushFailureMetric world dagId runId e (op.body world s).state).log := by
      rw [log_execute_of_error hresult, sparkAccepted, List.filterMap_append, acceptedMessages,
        List.filterMap_append] at hm
      refine (List.mem_append.mp hm).resolve_left fun h => ?_
      rw [sparkAccepted, acceptedMessages] at hbody
      simp [hbody] at h
    obtain ⟨metricType, raw, htype, hraw, hcarries⟩ := carries_of_pushFailureMetric hpush
    exact ⟨e, metricType, raw, rfl, htype, hraw, hcarries⟩

end SparkRunOperator

end BatchIngestion
