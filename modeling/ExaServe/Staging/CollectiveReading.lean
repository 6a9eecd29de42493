import ExaServe.Lib.Except
import ExaServe.Staging.CollectiveResults

namespace ExaServe.Staging

open Lib

section Arrival

variable {attemptId root : String} {size : Int} {stdout : List Char} {entries : List (List (String × Json))}

/-- The one envelope of this attempt, for this world and root, arrived with a record for each rank. -/
structure Arrived (stdout : List Char) (attemptId : String) (size : Int) (root : String) (ok : Bool)
    (results : List Json) : Prop where
  envelope : ∃ line fields, resultLines stdout = [line] ∧ Json.decode line = some (.obj fields) ∧
    Json.sameNames fields envelopeFields = true ∧ envelopeOf attemptId size root fields = some (ok, results)
  complete : (results.length : Int) = size

/-- A rank published its result for this attempt: a well-formed record, marked ok, under the
    digest of its content. -/
structure Published (attemptId : String) (rank : Nat) (item : Json) (record : Record) : Prop where
  formed : recordOf attemptId rank item = some record
  ok : record.ok = true
  own : resultId attemptId rank record.node (Value.ofJson record.payload) = some record.resultId

theorem load_arrived {ok : Bool} {results : List Json} (arrived : Arrived stdout attemptId size root ok results) :
    loadCollectiveResults stdout attemptId size root =
      results.zipIdx.mapM (checkRecord attemptId) >>= judge attemptId ok := by
  obtain ⟨⟨line, fields, one, decoded, named, found⟩, complete⟩ := arrived
  rw [loadCollectiveResults, one]
  simp only [decoded]
  rw [loadEnvelope, if_neg (by simp [named]), found]
  simp only [complete, ne_eq, not_true_eq_false, if_false]

theorem arrived_of_ok (loaded : loadCollectiveResults stdout attemptId size root = .ok entries) :
    ∃ ok results, Arrived stdout attemptId size root ok results := by
  unfold loadCollectiveResults at loaded
  split at loaded
  next line one =>
    split at loaded
    · cases loaded
    next envelope decoded =>
      cases envelope with
      | obj fields =>
        rw [loadEnvelope] at loaded
        split_ifs at loaded with named
        split at loaded
        · cases loaded
        next ok results found =>
          split_ifs at loaded with complete
          exact ⟨ok, results, ⟨line, fields, one, decoded, by simpa using named, found⟩, by simpa using complete⟩
      | _ => cases loaded
  next => cases loaded

theorem checkRecord_ok {item : Json × Nat} {record : Record} :
    checkRecord attemptId item = .ok record ↔ recordOf attemptId item.2 item.1 = some record ∧
      resultId attemptId item.2 record.node (Value.ofJson record.payload) = some record.resultId := by
  rw [checkRecord]
  cases formed : recordOf attemptId item.2 item.1 with
  | none => exact ⟨nofun, fun both => nomatch both.1⟩
  | some found =>
    simp only
    split_ifs with own
    · constructor
      · intro done
        cases done
        exact ⟨rfl, own⟩
      · intro both
        rw [Option.some.inj both.1]
    · constructor
      · intro done
        cases done
      · intro both
        cases Option.some.inj both.1
        exact absurd both.2 own

theorem checkRecord_error {item : Json × Nat} {error : StagingCollectiveError}
    (raised : checkRecord attemptId item = .error error) :
    error = .record item.2 ∨ error = .recordIdentity item.2 := by
  rw [checkRecord] at raised
  split at raised
  · exact .inl (Except.error.inj raised).symm
  · split_ifs at raised
    exact .inr (Except.error.inj raised).symm

/-- Each record is checked under the rank at which it stands. -/
theorem checked_each {results : List Json} {records : List Record}
    (done : results.zipIdx.mapM (checkRecord attemptId) = .ok records) : records.length = results.length ∧
      ∀ rank item record, results[rank]? = some item → records[rank]? = some record →
        checkRecord attemptId (item, rank) = .ok record := by
  have pairs := forall₂_of_mapM done
  have lengths := pairs.length_eq
  rw [List.length_zipIdx] at lengths
  refine ⟨lengths.symm, ?_⟩
  intro rank item record here found
  obtain ⟨inside, same⟩ := List.getElem?_eq_some_iff.mp here
  obtain ⟨held, equal⟩ := List.getElem?_eq_some_iff.mp found
  have checked := pairs.get (by rw [List.length_zipIdx]; exact inside) held
  simpa [same, equal] using checked

theorem checked_iff {results : List Json} {records : List Record} :
    results.zipIdx.mapM (checkRecord attemptId) = .ok records ↔ records.length = results.length ∧
      ∀ rank item record, results[rank]? = some item → records[rank]? = some record →
        checkRecord attemptId (item, rank) = .ok record := by
  refine ⟨checked_each, ?_⟩
  rintro ⟨lengths, each⟩
  have some_records : ∃ found, results.zipIdx.mapM (checkRecord attemptId) = .ok found := by
    apply mapM_some
    rintro ⟨item, rank⟩ member
    have here := List.mk_mem_zipIdx_iff_getElem?.mp member
    have inside : rank < records.length := lengths ▸ (List.getElem?_eq_some_iff.mp here).1
    exact ⟨records[rank], each rank item _ here (List.getElem?_eq_getElem inside)⟩
  obtain ⟨found, done⟩ := some_records
  obtain ⟨found_length, found_each⟩ := checked_each done
  rw [done]
  congr 1
  apply List.ext_getElem (found_length.trans lengths.symm)
  intro rank inside held
  have within : rank < results.length := lengths ▸ held
  have here := List.getElem?_eq_getElem within
  have one := found_each rank _ _ here (List.getElem?_eq_getElem inside)
  have other := each rank _ _ here (List.getElem?_eq_getElem held)
  exact Except.ok.inj (one.symm.trans other)

theorem failuresOf_nil {records : List Record} : failuresOf records = [] ↔ ∀ record ∈ records, record.ok = true := by
  rw [failuresOf, List.map_eq_nil_iff, List.filter_eq_nil_iff]
  constructor
  · intro none record member
    obtain ⟨rank, inside, same⟩ := List.getElem_of_mem member
    have listed : (record, rank) ∈ records.zipIdx :=
      List.mk_mem_zipIdx_iff_getElem?.mpr (List.getElem?_eq_some_iff.mpr ⟨inside, same⟩)
    simpa using none _ listed
  · rintro all ⟨record, rank⟩ member
    have held := List.mem_of_getElem? (List.mk_mem_zipIdx_iff_getElem?.mp member)
    simp [all record held]

theorem judge_ok {ok : Bool} {records : List Record} : judge attemptId ok records = .ok entries ↔
    ok = true ∧ (∀ record ∈ records, record.ok = true) ∧ (records.map Record.resultId).Nodup ∧
      entries = records.map (Record.entry attemptId) := by
  rw [judge]
  split_ifs with failing distinct
  · constructor
    · exact nofun
    · rintro ⟨good, all, -⟩
      rcases failing with bad | some_failure
      · rw [good] at bad
        cases bad
      · exact absurd (failuresOf_nil.mpr all) some_failure
  · push Not at failing
    constructor
    · intro done
      exact ⟨by simpa using failing.1, failuresOf_nil.mp failing.2, distinct, (Except.ok.inj done).symm⟩
    · rintro ⟨-, -, -, same⟩
      rw [same]
  · exact ⟨nofun, fun all => absurd all.2.2.1 distinct⟩

/-- The records of an envelope, each published by its rank. -/
structure AllPublished (attemptId : String) (results : List Json) (records : List Record) : Prop where
  lengths : records.length = results.length
  each : ∀ rank item record, results[rank]? = some item → records[rank]? = some record →
    Published attemptId rank item record

/-- The reader returns exactly when one envelope arrived that is marked ok, every rank published,
    and no two results share an identity. -/
theorem load_ok_iff : loadCollectiveResults stdout attemptId size root = .ok entries ↔
    ∃ results records, Arrived stdout attemptId size root true results ∧ AllPublished attemptId results records ∧
      (records.map Record.resultId).Nodup ∧ entries = records.map (Record.entry attemptId) := by
  constructor
  · intro loaded
    obtain ⟨ok, results, arrived⟩ := arrived_of_ok loaded
    rw [load_arrived arrived] at loaded
    obtain ⟨records, checked, judged⟩ := bind_ok loaded
    obtain ⟨good, all, distinct, same⟩ := judge_ok.mp judged
    obtain ⟨lengths, each⟩ := checked_iff.mp checked
    subst good
    refine ⟨results, records, arrived, ⟨lengths, ?_⟩, distinct, same⟩
    intro rank item record here found
    obtain ⟨formed, own⟩ := checkRecord_ok.mp (each rank item record here found)
    exact ⟨formed, all record (List.mem_of_getElem? found), own⟩
  · rintro ⟨results, records, arrived, published, distinct, same⟩
    have checked : results.zipIdx.mapM (checkRecord attemptId) = .ok records := by
      apply checked_iff.mpr ⟨published.lengths, ?_⟩
      intro rank item record here found
      have one := published.each rank item record here found
      exact checkRecord_ok.mpr ⟨one.formed, one.own⟩
    have all : ∀ record ∈ records, record.ok = true := by
      intro record member
      obtain ⟨rank, inside, equal⟩ := List.getElem_of_mem member
      have within : rank < results.length := published.lengths ▸ inside
      exact (published.each rank _ record (List.getElem?_eq_getElem within)
        (List.getElem?_eq_some_iff.mpr ⟨inside, equal⟩)).ok
    rw [load_arrived arrived, ok_bind checked]
    exact judge_ok.mpr ⟨rfl, all, distinct, same⟩

end Arrival

section Naming

variable {attemptId root : String} {size : Int} {stdout : List Char}

/-- The message of an error names a rank. -/
def StagingCollectiveError.Names (error : StagingCollectiveError) (rank : Nat) : Prop :=
  ∃ before after, error.message = before ++ rankText rank ++ after

theorem names_failed {failures : List (Nat × String × String)} {failure : Nat × String × String}
    (member : failure ∈ failures) : (StagingCollectiveError.failed failures).Names failure.1 := by
  have joined : ∀ texts : List String, failureText failure ∈ texts →
      ∃ before after, "; ".intercalate texts = before ++ rankText failure.1 ++ after := by
    intro texts listed
    induction texts with
    | nil => cases listed
    | cons text rest ih =>
      rcases List.mem_cons.mp listed with here | later
      · rw [← here]
        cases rest with
        | nil =>
          exact ⟨"", "(" ++ failure.2.1 ++ "): " ++ failure.2.2,
            by simp only [String.intercalate_singleton, failureText, String.empty_append, String.append_assoc]⟩
        | cons next rest =>
          rw [String.intercalate_cons_of_ne_nil (List.cons_ne_nil _ _)]
          exact ⟨"", "(" ++ failure.2.1 ++ "): " ++ failure.2.2 ++ "; " ++ "; ".intercalate (next :: rest),
            by simp only [failureText, String.empty_append, String.append_assoc]⟩
      · obtain ⟨before, after, same⟩ := ih later
        rw [String.intercalate_cons_of_ne_nil (List.ne_nil_of_mem later), same]
        exact ⟨text ++ "; " ++ before, after, by simp only [String.append_assoc]⟩
  obtain ⟨before, after, same⟩ := joined _ (List.mem_map_of_mem member)
  refine ⟨"MPI staging collective failed: " ++ before, after, ?_⟩
  change failedText failures = _
  unfold failedText
  simp only [if_neg (List.ne_nil_of_mem member), same, String.append_assoc]

theorem mapM_error {α β ε : Type} {f : α → Except ε β} {items : List α} {error : ε}
    (raised : items.mapM f = .error error) : ∃ item ∈ items, f item = .error error := by
  induction items with
  | nil => cases raised
  | cons item rest ih =>
    cases here : f item with
    | error other =>
      rw [List.mapM_cons, here] at raised
      cases raised
      exact ⟨item, List.mem_cons_self, here⟩
    | ok value =>
      rw [List.mapM_cons, ok_bind here] at raised
      cases later : rest.mapM f with
      | error other =>
        rw [later] at raised
        cases raised
        obtain ⟨found, member, same⟩ := ih later
        exact ⟨found, List.mem_cons_of_mem _ member, same⟩
      | ok values =>
        rw [later] at raised
        cases raised

/-- Once the envelope arrived, what is raised names a rank that did not publish its result, but
    for a verdict that no rank explains and for two results of one identity. -/
theorem load_error {ok : Bool} {results : List Json} (arrived : Arrived stdout attemptId size root ok results)
    {error : StagingCollectiveError} (raised : loadCollectiveResults stdout attemptId size root = .error error) :
    (∃ rank item, results[rank]? = some item ∧ error.Names rank ∧ ∀ record, ¬ Published attemptId rank item record) ∨
      ∃ records, AllPublished attemptId results records ∧
        (ok = false ∨ ¬ (records.map Record.resultId).Nodup) := by
  rw [load_arrived arrived] at raised
  cases checked : results.zipIdx.mapM (checkRecord attemptId) with
  | error failure =>
    rw [checked] at raised
    cases raised
    obtain ⟨⟨item, rank⟩, member, found⟩ := mapM_error checked
    refine .inl ⟨rank, item, List.mk_mem_zipIdx_iff_getElem?.mp member, ?_, ?_⟩
    · rcases checkRecord_error found with same | same
      · exact same ▸ ⟨"MPI staging result ", "is invalid", rfl⟩
      · exact same ▸ ⟨"MPI staging result ", "identity is invalid", rfl⟩
    · intro record published
      rw [checkRecord_ok.mpr ⟨published.formed, published.own⟩] at found
      cases found
  | ok records =>
    rw [ok_bind checked, judge] at raised
    obtain ⟨lengths, each⟩ := checked_each checked
    by_cases all : failuresOf records = []
    · have good := failuresOf_nil.mp all
      refine .inr ⟨records, ⟨lengths, ?_⟩, ?_⟩
      · intro rank item record here found
        obtain ⟨formed, own⟩ := checkRecord_ok.mp (each rank item record here found)
        exact ⟨formed, good record (List.mem_of_getElem? found), own⟩
      · split_ifs at raised with failing distinct
        · exact .inl (failing.resolve_right (absurd all))
        · exact .inr distinct
    · rw [if_pos (.inr all)] at raised
      cases raised
      obtain ⟨failure, member⟩ := List.exists_mem_of_ne_nil _ all
      obtain ⟨⟨record, rank⟩, listed, same⟩ := List.mem_map.mp member
      obtain ⟨stands, failed⟩ := List.mem_filter.mp listed
      have found := List.mk_mem_zipIdx_iff_getElem?.mp stands
      have inside : rank < results.length := lengths ▸ (List.getElem?_eq_some_iff.mp found).1
      have here := List.getElem?_eq_getElem inside
      refine .inl ⟨rank, _, here, ?_, ?_⟩
      · have named := names_failed member
        rw [← same] at named
        exact named
      · intro other published
        have formed := (checkRecord_ok.mp (each rank _ _ here found)).1
        rw [published.formed] at formed
        cases formed
        simp [published.ok] at failed

end Naming

end ExaServe.Staging
