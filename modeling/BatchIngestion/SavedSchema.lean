import BatchIngestion.Retries

/-!
# The schema of what is saved

The check of a DataFrame against an expected schema looks types up by name, the projection skips
columns that are not there, and the casts rewrite one column at a time. A frame that passes the
check is turned into one with exactly the expected fields, and no other frame is saved.
-/

namespace BatchIngestion

open Python Library SparkAction Procedure

variable {ρ : Type} {world : SparkWorld ρ} {sink : SinkAdapter} {schema : SparkSchema}
  {df : DataFrame ρ}

/-! ### The frame -/

/-- A frame that passes the check has all expected fields. -/
theorem SinkAdapter.get?_of_validateSchema (hschema : sink.schema = some schema)
    (hnames : (Dict.keys schema).Nodup) (hcolumns : (Dict.keys df.fields).Nodup)
    (h : sink.validateSchema df = .ok ()) :
    ∀ field ∈ schema, Dict.get? df.fields field.1 = some field.2 := by
  unfold validateSchema at h
  rw [hschema] at h
  dsimp only at h
  rw [Dict.update_eq_append (d := []) hnames, Dict.update_eq_append (d := []) hcolumns] at h
  split at h
  · rename_i hnone
    intro field hfield
    by_contra hne
    have := List.filterMap_eq_nil_iff.mp hnone field hfield
    rw [List.nil_append, if_neg hne] at this
    cases this
  · cases h

/-- A cast of a field to the type that it has changes nothing. -/
theorem castField_eq_self (hnames : (Dict.keys schema).Nodup) {field : Text × Text}
    (hfield : field ∈ schema) :
    schema.map (fun column => if column.1 = field.1 then field else column) = schema := by
  refine (List.map_congr_left fun column hcolumn => ?_).trans (List.map_id schema)
  split
  · rename_i hname
    exact List.inj_on_of_nodup_map hnames hfield hcolumn hname.symm
  · rfl

/-- **A frame that passes the check gets the expected schema.** -/
theorem SinkAdapter.fields_preWrite (world : SparkWorld ρ) (hschema : sink.schema = some schema)
    (hnames : (Dict.keys schema).Nodup) (hcolumns : (Dict.keys df.fields).Nodup)
    (h : sink.validateSchema df = .ok ()) : (sink.preWrite world df).fields = schema := by
  have hget := get?_of_validateSchema hschema hnames hcolumns h
  have hselected : schema.filterMap (fun field => df.fields.find? (·.1 = field.1)) = schema := by
    refine (List.filterMap_congr fun field hfield => ?_).trans List.filterMap_some
    exact Dict.find?_of_get? (hget field hfield)
  have hcasts (fields : SparkSchema) (hsubset : ∀ field ∈ fields, field ∈ schema) :
      fields.foldl (fun fields field =>
        fields.map fun column => if column.1 = field.1 then field else column) schema = schema := by
    induction fields with
    | nil => rfl
    | cons field fields ih =>
      obtain ⟨hfield, hfields⟩ := List.forall_mem_cons.mp hsubset
      rw [List.foldl_cons, castField_eq_self hnames hfield]
      exact ih hfields
  unfold preWrite
  rw [hschema]
  dsimp only
  rw [hselected, hcasts schema fun _ hfield => hfield]

/-! ### The write -/

/-- A save starts. -/
def SparkEvent.isSaving : SparkEvent ρ → Bool
  | .saving _ _ _ _ => true
  | _ => false

/-- The error hook is called. -/
def SparkEvent.isOnError : SparkEvent ρ → Bool
  | .onError _ => true
  | _ => false

/-- A write saves a frame of the expected schema, or raises before that. -/
theorem SinkAdapter.writesAs_write
    (hfields : sink.validateSchema df = .ok () → (sink.preWrite world df).fields = schema)
    {path : Text} (hpath : ∀ path', buildWritePath sink.config = .ok path' → path' = path) :
    WritesAs SparkState.stored SparkEvent.isSaving
      (.saving schema sink.fileFormat sink.partitionBy path) (fun _ _ => True)
      (sink.write world df) := by
  have hraised (e : PyExc) : (SparkEvent.raised e : SparkEvent ρ).isSaving = false := rfl
  have honError (e : PyExc) : (SparkEvent.onError e : SparkEvent ρ).isSaving = false := rfl
  have hsaved (m path) (rows : List ρ) : (SparkEvent.saved m path rows).isSaving = false := rfl
  refine .onException ?_ fun e => (quiet_onError hraised (honError e)).of_id
  refine .after (quiet_configure hraised _) fun _ => ?_
  refine .after (quiet_shapeFrame hraised).of_id fun _ => ?_
  refine .after_of_returns (.attempt hraised _) (Returns.attempt _) fun _ hvalid => ?_
  refine .after_of_returns (.attempt hraised _) (Returns.attempt _) fun path' hpath' => ?_
  refine .after (.attempt hraised _) fun _ => .after (.attempt hraised _) fun _ => ?_
  rw [hfields hvalid, hpath path' hpath']
  refine .start rfl ?_
  refine (Logs.attempt hraised _).bind fun _ => (Logs.modify _).bind fun _ => ?_
  exact Logs.bind (.emit (hsaved _ _ _)) fun _ => (quiet_postWrite hraised).logs

/-- The error hook of a write is called once if the write raises. -/
theorem SinkAdapter.onError_write (sink : SinkAdapter) (world : SparkWorld ρ) (df : DataFrame ρ)
    (s : SparkState ρ) : (∃ a, (sink.write world df s).result = .ok a ∧
        (sink.write world df s).log.filter SparkEvent.isOnError = []) ∨
      ∃ e e', (sink.write world df s).result = .error e' ∧
        (sink.write world df s).log.filter SparkEvent.isOnError = [.onError e] := by
  obtain ⟨body, hwrite, hbody⟩ := exists_body_write sink world (fun w => w.isOnError = false)
    (fun _ => rfl) (fun _ _ _ _ => rfl) (fun _ _ _ => rfl) df
  have honce (e : PyExc) (s : SparkState ρ) :
      (sink.onError e s).log.filter SparkEvent.isOnError = [.onError e] := by
    unfold onError
    cases buildWritePath sink.config <;> rfl
  rw [hwrite]
  refine (onException_handled hbody honce s).imp_right ?_
  rintro ⟨e, e', -, hresult, hlog⟩
  exact ⟨e, e', hresult, hlog⟩

/-- A write started one save, of a frame with the expected fields. Or it raised before that, with
what is stored unchanged and one call of the error hook. -/
def SavesSchema (sink : SinkAdapter) (schema : SparkSchema) (s : SparkState ρ)
    (o : Outcome PyExc (SparkState ρ) (SparkEvent ρ) Unit) : Prop :=
  (∃ path, o.log.filter SparkEvent.isSaving =
      [.saving schema sink.fileFormat sink.partitionBy path]) ∨
    o.log.filter SparkEvent.isSaving = [] ∧ o.state.stored = s.stored ∧
      (∃ e, o.result = .error e) ∧ ∃ e, o.log.filter SparkEvent.isOnError = [.onError e]

/-- **What a write saves has exactly the expected schema.** -/
theorem write_savesSchema (world : SparkWorld ρ) (s : SparkState ρ)
    (hschema : sink.schema = some schema) (hnames : (schema.map Prod.fst).Nodup)
    (hcolumns : (df.fields.map Prod.fst).Nodup) :
    SavesSchema sink schema s (sink.write world df s) := by
  obtain ⟨path, hpath⟩ :
      ∃ path, ∀ path', buildWritePath sink.config = .ok path' → path' = path := by
    cases hbuild : buildWritePath sink.config with
    | ok path => exact ⟨path, fun path' h => (Except.ok.inj h).symm⟩
    | error e => exact ⟨[], fun path' h => by cases h⟩
  have hfields := SinkAdapter.fields_preWrite world hschema hnames hcolumns
  rcases SinkAdapter.writesAs_write hfields hpath s with hraises | ⟨hsaved, -⟩
  · obtain ⟨hnone, hstored, e, he⟩ := hraises
    rcases SinkAdapter.onError_write sink world df s with ⟨a, ha, -⟩ | ⟨e', _, -, honce⟩
    · rw [he] at ha
      cases ha
    · exact .inr ⟨hnone, hstored, ⟨e, he⟩, e', honce⟩
  · exact .inl ⟨path, hsaved⟩

/-- A column that is not expected is left out, and the others are put in order. -/
theorem write_savesSchema_customers :
    SavesSchema
      { customersContext.constructSink with
        schema := some [("id".toList, "bigint".toList), ("name".toList, "string".toList)] }
      [("id".toList, "bigint".toList), ("name".toList, "string".toList)]
      { hadoopConf := [], hadoopUser := none, stored := fun _ => [] }
      (SinkAdapter.write
        { customersContext.constructSink with
          schema := some [("id".toList, "bigint".toList), ("name".toList, "string".toList)] }
        (customersAttempt fun _ => .ok ()).world
        { fields := [("note".toList, "string".toList), ("name".toList, "string".toList),
            ("id".toList, "bigint".toList)]
          rows := [7] }
        { hadoopConf := [], hadoopUser := none, stored := fun _ => [] }) :=
  write_savesSchema _ _ rfl (by decide +kernel) (by decide +kernel)

end BatchIngestion
