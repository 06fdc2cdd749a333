import BatchIngestion.CatchUp
import BatchIngestion.KafkaIngestion
import BatchIngestion.KafkaOverlap
import BatchIngestion.Python.JsonAscii

/-!
# Kafka pipelines catch up

As long as the partitions stay, Spark accepts every pair of snapshots, whichever runs have
taken them, and every snapshot can be written to the store. One run that is completed
without an outage therefore brings a Kafka pipeline up to date, whatever has happened
before.
-/

namespace BatchIngestion

open Python Library

variable {ι : Type} {cfg : KafkaSourceConfig} {countRecords : Bool} {tp : TopicPartition}
  {v : CheckpointValue} {broker b : Broker}

/-! ### Reads that succeed -/

/-- A snapshot is a printable text, which can be written. -/
theorem Snapshot.exists_text (h : Snapshot cfg b v) :
    ∃ text, v = .str text ∧ v.serialise.text = .ok (some text) ∧ Printable text := by
  obtain ⟨text, rfl, hmax⟩ := h
  obtain rfl := maxKafka_eq_ok hmax
  obtain ⟨t, ht⟩ := jsonDumps_braces
    (offsetMapOf (endOffsets b (topicPartitions b (topicsOf cfg.topic))))
  refine ⟨_, rfl, ?_, printable_jsonDumps _⟩
  simp [CheckpointValue.serialise, TaggedCheckpoint.text, ht]

/-- A snapshot can be written. -/
theorem Snapshot.storable (h : Snapshot cfg b v) : v.Storable := by
  obtain ⟨text, -, htext, hprintable⟩ := h.exists_text
  refine ⟨_, htext, ?_⟩
  rintro t ⟨⟩
  exact hprintable.nul_notMem

/-- A snapshot names a start for every partition that is subscribed later. -/
theorem isSome_startOffset (hbefore : cfg.Appends b broker) {text : Text}
    (hmax : maxKafka cfg.topic (.ok b) = .ok text) (htp : tp ∈ cfg.subscribed broker) :
    (sparkOffset text tp.1 tp.2).isSome := by
  have hmem := mem_subscribed.mp (hbefore.subscribed_iff.mpr htp)
  rw [sparkOffset_maxKafka hmax, if_pos hmem]
  rfl

/-- A snapshot names only partitions that are subscribed later. -/
theorem namesOnly_of_appends (hbefore : cfg.Appends b broker) {text : Text}
    (hmax : maxKafka cfg.topic (.ok b) = .ok text) :
    namesOnly text (cfg.subscribed broker) = true :=
  namesOnly_maxKafka hmax fun _ htp => hbefore.subscribed_iff.mp (List.mem_dedup.mpr htp)

/-- **Spark accepts all earlier snapshots** while the partitions stay, and the defaults. -/
theorem exists_kafkaRead (hcfg : cfg.LeavesOffsets)
    (hearliest : cfg.startingOffsets = "earliest".toList) {f t : Option CheckpointValue}
    (hf : ∀ v, f = some v → ∃ b, Snapshot cfg b v ∧ cfg.Appends b broker)
    (ht : ∀ v, t = some v → ∃ b, Snapshot cfg b v ∧ cfg.Appends b broker) :
    ∃ ranges, kafkaRead cfg broker f t = .ok ranges := by
  obtain ⟨starting, hstarting, hstart, hstartOnly⟩ : ∃ starting,
      f.elim (.ok cfg.startingOffsets) CheckpointValue.format = .ok starting ∧
        (∀ tp ∈ cfg.subscribed broker, (startOffset starting tp).isSome) ∧
        namesOnly starting (cfg.subscribed broker) = true := by
    cases f with
    | none =>
      refine ⟨_, rfl, fun tp _ => ?_, ?_⟩
      · rw [hearliest, startOffset_earliest]
        rfl
      · have hnone : jsonLoads "earliest" = none := by decide +kernel
        rw [hearliest, namesOnly, hnone]
        rfl
    | some v =>
      obtain ⟨b, ⟨text, rfl, hmax⟩, hbefore⟩ := hf v rfl
      refine ⟨text, rfl, fun tp htp => ?_, namesOnly_of_appends hbefore hmax⟩
      rw [startOffset_maxKafka hmax]
      exact isSome_startOffset hbefore hmax htp
  obtain ⟨ending, hending, hstop, hendOnly⟩ : ∃ ending,
      t.elim (.ok ("latest" : Text)) CheckpointValue.format = .ok ending ∧
        (∀ tp ∈ cfg.subscribed broker, (stopOffset broker ending tp).isSome) ∧
        namesOnly ending (cfg.subscribed broker) = true := by
    cases t with
    | none =>
      refine ⟨_, rfl, fun tp _ => ?_, ?_⟩
      · have hlatest : isKeyword "latest" "latest" = true := by decide +kernel
        rw [stopOffset, if_pos hlatest]
        rfl
      · have hnone : jsonLoads "latest" = none := by decide +kernel
        rw [namesOnly, hnone]
        rfl
    | some v =>
      obtain ⟨b, ⟨text, rfl, hmax⟩, hbefore⟩ := ht v rfl
      refine ⟨text, rfl, fun tp htp => ?_, namesOnly_of_appends hbefore hmax⟩
      rw [stopOffset_maxKafka hmax]
      exact isSome_startOffset hbefore hmax htp
  rw [kafkaRead, hcfg.offsetOptions_eq hstarting hending, ok_bind]
  exact exists_offsetRanges_iff.mpr ⟨fun tp htp => ⟨hstart tp htp, hstop tp htp⟩, hstartOnly,
    hendOnly⟩

/-- A broker with a subscribed partition has a snapshot, and a run computes it. -/
theorem exists_snapshot (countRecords : Bool) (htp : tp ∈ cfg.subscribed broker) :
    ∃ text, maxKafka cfg.topic (.ok broker) = .ok text ∧
      InitOperator.fetchCheckpointTo .kafka (.kafka cfg)
        ((kafkaSource cfg countRecords).native broker) = some (.str text) := by
  have hne : topicPartitions broker (topicsOf cfg.topic) ≠ [] := by
    intro hnil
    have hmem := List.mem_dedup.mp htp
    simp [hnil] at hmem
  have hmax : maxKafka cfg.topic (.ok broker) = .ok (jsonDumps (offsetMapOf
      (endOffsets broker (topicPartitions broker (topicsOf cfg.topic))))) := by
    simp only [maxKafka, ok_bind, if_neg hne]
  refine ⟨_, hmax, ?_⟩
  simp only [InitOperator.fetchCheckpointTo, kafkaSource, if_true, hmax]
  rfl

section CatchUp

variable [DecidableEq ι] {dagId : Text} {info : ι → RunInfo} {store : Text → Option Text}
  {es : List (Event ι Broker)} {s : State ι Broker (List OffsetRange)} {i : ι}

/-- What can become a checkpoint of a run is a snapshot of an earlier state of the broker. -/
theorem snapshot_of_known (hstore : store dagId = none)
    (h : exec (kafkaAppending dagId cfg countRecords info).step
      (State.start (kafkaAppending dagId cfg countRecords info) broker store) es = some s)
    (hknown : (kafkaAppending dagId cfg countRecords info).Known s i v) :
    ∃ b, Snapshot cfg b v ∧ cfg.Appends b s.source := by
  have hpast : Past cfg cfg.Appends (kafkaAppending dagId cfg countRecords info) store dagId
      s.source s.log :=
    past_of_exec (.refl cfg) (fun h h' => h.trans h') (fun hmoves => of_decide_eq_true hmoves)
      (by simp [hstore]) h
  cases hknown with
  | stored htext =>
    rw [(System.simulates_of_exec h).store_eq] at htext
    exact hpast.stored _ htext
  | fetchedFrom hfrom => exact hpast.fetched i v hfrom
  | fetchedTo hto => exact hpast.reported v (mem_reportedIn_of_lastTo hto)
  | maximum hmax => exact ⟨s.source, snapshot_of_fetchCheckpointTo hmax, .refl cfg s.source⟩

/-- Every run over a Kafka source with fixed partitions is serviceable. -/
theorem kafkaIngestion_serviceable (hcfg : cfg.LeavesOffsets)
    (hearliest : cfg.startingOffsets = "earliest".toList) (hstore : store dagId = none)
    (h : exec (kafkaAppending dagId cfg countRecords info).step
      (State.start (kafkaAppending dagId cfg countRecords info) broker store) es = some s) (i : ι) :
    (kafkaAppending dagId cfg countRecords info).Serviceable s i where
  reads _ f t hf ht := exists_kafkaRead hcfg hearliest
    (fun v hv => snapshot_of_known hstore h (hf v hv))
    fun v hv => snapshot_of_known hstore h (ht v hv)
  storable v hv := by
    obtain ⟨b, hb, -⟩ := snapshot_of_known hstore h hv
    exact hb.storable

/-- **One good run lands all messages.** Runs of one DAG over a Kafka source with fixed
partitions overlap, fail and are retried in any way while messages arrive. When a run that has
yet to take its snapshot is then completed while the broker is up, the stored text names the
end offset of every subscribed partition, and every message has landed. The check of the sink
factory, which no Kafka source passes, is left aside; it concerns one step. -/
theorem kafkaIngestion_catchesUp (hcfg : cfg.LeavesOffsets)
    (hearliest : cfg.startingOffsets = "earliest".toList) (hstore : store dagId = none)
    (h : exec (kafkaAppending dagId cfg countRecords info).step
      (State.start (kafkaAppending dagId cfg countRecords info) broker store) es = some s)
    (hpending : (s.runs i).Pending) {outside : Outside} (hup : outside.sourceUp = true) :
    (∀ step : Step, step ≠ .buildSinkConfig → ∀ state row run,
      step.checkedEffect ((kafkaAppending dagId cfg countRecords info).dag i) (info i) outside
          state row run =
        step.effect ((kafkaAppending dagId cfg countRecords info).dag i) (info i) outside
          state row run) ∧
    ∃ t, exec (kafkaAppending dagId cfg countRecords info).step s
        ((kafkaSource cfg countRecords).completion i outside (s.runs i)) = some t ∧
      t.source = s.source ∧
      ∀ tp ∈ cfg.subscribed s.source,
        (∃ text, t.store dagId = some text ∧
          sparkOffset text tp.1 tp.2 = some (s.source.endOffset tp.1 tp.2 : ℤ)) ∧
        ∀ o : ℤ, 0 ≤ o → o < s.source.endOffset tp.1 tp.2 → o ∈ landedOffsets t.log tp := by
  refine ⟨fun _ hstep state row run => Step.checkedEffect_eq (.inl hstep) (info i) state row run,
    ?_⟩
  obtain ⟨t, hexec, hsource, -, hsaved⟩ :=
    System.exists_catchUp (fun _ => DagFactory.saves_metricPush dagId) h hpending
      (kafkaIngestion_serviceable hcfg hearliest hstore h i) hup
  have hreach := exec_append_eq_some.mpr ⟨s, h, hexec⟩
  refine ⟨t, hexec, hsource, fun tp htp => ?_⟩
  obtain ⟨text, hmax, hfetch⟩ := exists_snapshot countRecords htp
  have hsnapshot : Snapshot cfg s.source (.str text) := ⟨text, rfl, hmax⟩
  have hstored : t.store dagId = some text := by
    obtain ⟨_, heq, htext, -⟩ := hsnapshot.exists_text
    obtain rfl := CheckpointValue.str.inj heq
    exact hsaved _ _ hfetch htext
  have hoffset : sparkOffset text tp.1 tp.2 = some (s.source.endOffset tp.1 tp.2 : ℤ) := by
    rw [sparkOffset_maxKafka hmax, if_pos (mem_subscribed.mp htp)]
  refine ⟨⟨text, hstored, hoffset⟩, fun o hnonneg hlt => ?_⟩
  have hsafe := (noGap_of_exec hcfg hearliest hstore hreach).stored_safe text
    ((congrFun (System.simulates_of_exec hreach).store_eq dagId).symm.trans hstored)
  rw [parseText_maxKafka hmax] at hsafe
  exact hsafe.2 tp _ hoffset o hnonneg hlt

end CatchUp

/-! ### An example -/

/-- A first run fails in its Spark task, and messages arrive. -/
def failedBatch : List (Event ℕ Broker) :=
  ((kafkaSource ordersEvents false).uneventful 1 .up).take 12 ++
    [.raise 1 [] false, .source (.withPartitions 2 9)]

/-- The second run lands what the first one has not landed. -/
theorem kafkaIngestion_catchesUp_failedBatch :
    ∃ s t, exec appendingSystem.step twoPartitions failedBatch = some s ∧
      exec appendingSystem.step s
        ((kafkaSource ordersEvents false).completion 2 .up (s.runs 2)) = some t ∧
      (8 : ℤ) ∈ landedOffsets t.log ("orders-events".toList, 1) := by
  have hrun : ((exec appendingSystem.step twoPartitions failedBatch).bind fun s =>
      if (s.runs 2).task = .init ∧ .fetchCheckpointTo ∈ (s.runs 2).todo ∧
          ("orders-events".toList, 1) ∈ ordersEvents.subscribed s.source ∧
          s.source.endOffset "orders-events".toList 1 = 9
        then some () else none) = some () := by decide +kernel
  obtain ⟨s, hs, hfacts⟩ := Option.bind_eq_some_iff.mp hrun
  split at hfacts
  · rename_i hall
    obtain ⟨htask, hmem, hsubscribed, hend⟩ := hall
    have hup : Outside.up.sourceUp = true := rfl
    obtain ⟨-, t, hexec, -, hlanded⟩ := kafkaIngestion_catchesUp leavesOffsets_ordersEvents rfl rfl
      hs ⟨htask, .inr hmem⟩ hup
    refine ⟨s, t, hs, hexec, (hlanded _ hsubscribed).2 8 (by decide) ?_⟩
    rw [hend]
    decide
  · simp at hfacts

end BatchIngestion
