import BatchIngestion.Sequential
import BatchIngestion.SqlAdapter

/-!
# The hand-off of checkpoints

From one run of a DAG to the next nothing is lost: the value that a run fetches is the
one that the latest earlier run computed and saved, and the texts that both publish are
the same.
-/

namespace BatchIngestion

open Python Library

variable {ι σ β : Type}

/-! ### The texts of a metric -/

section Metric

variable {pipeline dagId stopTime : Text} {info : RunInfo} {pulled : Pulled}

/-- The DAG factory adds one key to a metric. -/
theorem DagFactory.notMem_extraPayload {key : Text} (hkey : key ≠ ("pipeline" : Text)) :
    key ∉ Dict.keys (DagFactory.metricPush pipeline).extraPayload :=
  List.not_mem_cons_of_ne_of_not_mem hkey List.not_mem_nil

/-- The metric task of the DAG factory reports success. -/
theorem DagFactory.isSuccess_payload :
    ((DagFactory.metricPush pipeline).payload dagId stopTime info pulled).IsSuccess := by
  rw [Payload.IsSuccess, MetricPushOperator.get?_payload (notMem_extraPayload (by decide +kernel))
    (by decide +kernel)]
  rfl

/-- The inline metric of a failing Spark task does not. -/
theorem not_isSuccess_failurePayload {runId error : Text} :
    ¬ (failurePayload dagId runId error).IsSuccess := by
  have hstatus : Dict.get? (failurePayload dagId runId error) ("status" : Text) =
      some (.str "failed") := rfl
  rw [Payload.IsSuccess, hstatus]
  decide +kernel

/-- A metric has the identifiers of its DAG and its run. -/
theorem DagFactory.get?_ids :
    Dict.get? ((DagFactory.metricPush pipeline).payload dagId stopTime info pulled)
        ("dag_id" : Text) = some (.str dagId) ∧
      Dict.get? ((DagFactory.metricPush pipeline).payload dagId stopTime info pulled)
        ("run_id" : Text) = some (.str info.runId) := by
  constructor <;> rw [MetricPushOperator.get?_payload (notMem_extraPayload (by decide +kernel))
    (by decide +kernel)] <;> rfl

/-- The published `checkpoint_from` is the pulled one. -/
theorem DagFactory.get?_checkpointFrom :
    Dict.get? ((DagFactory.metricPush pipeline).payload dagId stopTime info pulled)
      ("checkpoint_from" : Text) = some (.ofText pulled.checkpointFrom) := by
  rw [MetricPushOperator.get?_payload (notMem_extraPayload (by decide +kernel))
    (by decide +kernel)]
  rfl

/-- The published `checkpoint_to` is the pulled one. -/
theorem DagFactory.get?_checkpointTo :
    Dict.get? ((DagFactory.metricPush pipeline).payload dagId stopTime info pulled)
      ("checkpoint_to" : Text) = some (.ofText pulled.checkpointTo) := by
  rw [MetricPushOperator.get?_payload (notMem_extraPayload (by decide +kernel))
    (by decide +kernel)]
  rfl

end Metric

/-! ### From writer to reader -/

/-- The texts of a successful metric are those of the checkpoints of its run. -/
theorem WellOrdered.texts_of_isSuccess [DecidableEq ι] {dagId : ι → Text}
    {source : ι → Source σ β} {info : ι → RunInfo} {moves : List CheckpointValue → σ → σ → Bool}
    {log : List (ι × Action σ β)} (h : WellOrdered (DagFactory.dags dagId source info moves) log)
    {i : ι} {payload : Payload} (hmem : (i, .published payload) ∈ log)
    (hsuccess : payload.IsSuccess) :
    ∃ f t textFrom textTo, lastFrom log i = some f ∧ lastTo log i = some t ∧
      checkpointText (serialiseCheckpoint f) = .ok textFrom ∧
      checkpointText (serialiseCheckpoint t) = .ok textTo ∧
      Dict.get? payload ("checkpoint_from" : Text) = some (.ofText textFrom) ∧
      Dict.get? payload ("checkpoint_to" : Text) = some (.ofText textTo) := by
  rcases h.published_texts i payload hmem with
    ⟨error, rfl⟩ | ⟨now, pulled, f, t, rfl, -, hfrom, hto, htextFrom, htextTo⟩
  · exact absurd hsuccess not_isSuccess_failurePayload
  · exact ⟨f, t, _, _, hfrom, hto, htextFrom, htextTo, DagFactory.get?_checkpointFrom,
      DagFactory.get?_checkpointTo⟩

/-- A successful metric has the identifiers of its DAG and its run. -/
theorem WellOrdered.ids_of_isSuccess [DecidableEq ι] {dagId : ι → Text}
    {source : ι → Source σ β} {info : ι → RunInfo} {moves : List CheckpointValue → σ → σ → Bool}
    {log : List (ι × Action σ β)} (h : WellOrdered (DagFactory.dags dagId source info moves) log)
    {i : ι} {payload : Payload} (hmem : (i, .published payload) ∈ log)
    (hsuccess : payload.IsSuccess) :
    Dict.get? payload ("dag_id" : Text) = some (.str (dagId i)) ∧
      Dict.get? payload ("run_id" : Text) = some (.str (info i).runId) := by
  rcases h.published_texts i payload hmem with ⟨error, rfl⟩ | ⟨now, pulled, _, _, rfl, -⟩
  · exact absurd hsuccess not_isSuccess_failurePayload
  · exact DagFactory.get?_ids

/-- The text that the metric task saves for a stable value is read as the value. -/
theorem parseRow_of_checkpointToSave {op : MetricPushOperator} {pulled : Pulled}
    {v : CheckpointValue} {text : Text} (hv : v.Stable)
    (hpulled : checkpointText (serialiseCheckpoint (some v)) = .ok pulled.checkpointTo)
    (hsave : op.checkpointToSave pulled = .ok (some text)) :
    InitOperator.parseRow ((some text).map .text) = .ok (some v) := by
  rw [MetricPushOperator.checkpointTo_of_checkpointToSave hsave] at hpulled
  exact congrArg (fun w => Except.ok (some w)) (parseText_of_text hv hpulled)

/-- **The checkpoint hand-off loses nothing.** What the metric task saves for a value that
the init task can compute, for any integer, any timestamp and any string that the parser
returns unchanged, the next init task reads as the same value of the same type. In every
sequence of runs that do not overlap, the `checkpoint_from` of a run is therefore the
`checkpoint_to` of the latest earlier run that saved one, and it is published with the same
text. -/
theorem checkpoint_handOff [DecidableEq ι] {dagId : Text} {source : Source σ β}
    {info : ι → RunInfo} {moves : List CheckpointValue → σ → σ → Bool} {initialSource : σ}
    {store : Text → Option Text} {es : List (Event ι σ)} {S : State ι σ β} {ran : List ι}
    (h : exec (DagFactory.oneDag dagId source info moves).step
      (State.start (DagFactory.oneDag dagId source info moves) initialSource store) es = some S)
    (hwatch : exec nonOverlapping [] es = some ran) :
    (∀ (v : CheckpointValue) (op : MetricPushOperator) (pulled : Pulled) (text : Text),
      (v.Stable ∨ ∃ readType config native,
        InitOperator.fetchCheckpointTo readType config native = some v) →
      checkpointText (serialiseCheckpoint (some v)) = .ok pulled.checkpointTo →
      op.checkpointToSave pulled = .ok (some text) →
      InitOperator.parseRow ((some text).map .text) = .ok (some v)) ∧
    ∀ later i earlier f, ran = later ++ i :: earlier → lastFrom S.log i = some f →
      (earlier.find? (fun j => HasSaved S.log j) = none → f = (store dagId).map parseText) ∧
      ∀ j, earlier.find? (fun j => HasSaved S.log j) = some j →
        f ≠ none ∧ lastTo S.log j = some f ∧
        ∃ text, (j, .saved text) ∈ S.log ∧ ∀ p q : Payload,
          (i, .published p) ∈ S.log → p.IsSuccess → (j, .published q) ∈ S.log → q.IsSuccess →
          Dict.get? p ("checkpoint_from" : Text) = some (.str text) ∧
            Dict.get? q ("checkpoint_to" : Text) = some (.str text) := by
  refine ⟨fun v op pulled text hv hpulled hsave => ?_, fun later i earlier f hran hfrom => ?_⟩
  · have hstable : v.Stable := by
      rcases hv with hv | ⟨readType, config, native, hv⟩
      · exact hv
      · exact InitOperator.fetchCheckpointTo_stable hv
    exact parseRow_of_checkpointToSave hstable hpulled hsave
  · have hseq : Sequential _ store dagId S.log ran :=
      System.sequential_of_exec (fun _ => rfl) h hwatch
    have hcarried := hseq.from_eq later i earlier hran f hfrom
    refine ⟨fun hnone => ?_, fun j hj => ?_⟩
    · rwa [carried, hnone] at hcarried
    · have hsaved : HasSaved S.log j := by simpa using List.find?_some hj
      obtain ⟨text, hmem⟩ := hsaved
      obtain ⟨t, hto, htext⟩ := hseq.ordered.saved_to j text hmem
      obtain ⟨v, rfl, -⟩ := exists_of_checkpointText htext
      obtain rfl : f = some v := by simpa [carried, hj, hto] using hcarried
      refine ⟨by simp, hto, text, hmem, fun p q hp hpsuccess hq hqsuccess => ⟨?_, ?_⟩⟩
      · obtain ⟨f', -, textFrom, -, hf', -, htextFrom, -, hget, -⟩ :=
          hseq.ordered.texts_of_isSuccess hp hpsuccess
        obtain rfl : some v = f' := Option.some.inj (hfrom.symm.trans hf')
        obtain rfl : some text = textFrom := Except.ok.inj (htext.symm.trans htextFrom)
        exact hget
      · obtain ⟨-, t', -, textTo, -, ht', -, htextTo, -, hget⟩ :=
          hseq.ordered.texts_of_isSuccess hq hqsuccess
        obtain rfl : some v = t' := Option.some.inj (hto.symm.trans ht')
        obtain rfl : some text = textTo := Except.ok.inj (htext.symm.trans htextTo)
        exact hget

/-- The second of two runs fetches what the first one computed. -/
theorem checkpoint_handOff_twoOrders :
    ∃ S, exec ordersSystem.step oneOrder twoOrders = some S ∧
      lastFrom S.log 2 = some (some (.int 7)) ∧ lastTo S.log 1 = some (some (.int 7)) := by
  have hrun : ((exec ordersSystem.step oneOrder twoOrders).map fun S =>
      (lastFrom S.log 2, [1].find? fun j => HasSaved S.log j)) =
      some (some (some (.int 7)), some 1) := by decide +kernel
  obtain ⟨S, hS, heq⟩ := Option.map_eq_some_iff.mp hrun
  obtain ⟨hfrom, hlatest⟩ := Prod.mk.inj heq
  have hwatch : exec nonOverlapping [] twoOrders = some [2, 1] := by decide +kernel
  have hrun := (checkpoint_handOff hS hwatch).2 [] 2 [1] _ rfl hfrom
  exact ⟨S, hS, hfrom, (hrun.2 1 hlatest).2.1⟩

end BatchIngestion
