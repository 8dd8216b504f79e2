import RecordGateway.Proofs.Partition.Order
import RecordGateway.Proofs.Reading.Protocol
import RecordGateway.Proofs.Record.View

/-!
# A Read Depends on the Set of Its Fields

The fields of a read are named in a list, but only their set counts: how often a field is named and
in which order changes nothing, neither the page nor any call on the way to it. The fields are used
in one place, where a polled record is viewed, and a view depends on their set.

## Theorems

* `FieldName.mapM_parse_names`: the names of fields are read as these fields.
* `Reader.fetch_congr`, `Reader.read_congr`: only the set of fields counts.
-/

namespace RecordGateway

variable {σ : Type}

/-- The names of fields are read as these fields. -/
theorem FieldName.mapM_parse_names (fs : List FieldName) :
    (fs.map FieldName.name).mapM FieldName.parse = .ok fs := by
  rw [mapM_eq_ok_iff, List.map_map]
  refine List.map_congr_left fun f _ => ?_
  rw [Function.comp_apply, FieldName.parse, FieldName.ofName?_name]

theorem Page.ofBatches_congr {fs gs : List FieldName} (h : ∀ f, f ∈ fs ↔ f ∈ gs)
    (batches : List (TopicPartition × List ConsumedRecord)) :
    Page.ofBatches fs batches = Page.ofBatches gs batches := by
  simp only [Page.ofBatches, ConsumedRecord.view_congr h]

namespace Reader

theorem fetch_congr {fs gs : List FieldName} (h : ∀ f, f ∈ fs ↔ f ∈ gs) (r : Reader)
    (c : Consumer σ) (q : Query) (since : Option Instant) :
    r.fetch c q since fs = r.fetch c q since gs := by
  simp only [fetch, Page.ofBatches_congr h]

/-- What is checked of a query that names fields: its instant, and then the settings. -/
theorem checks_named (r : Reader) (q : Query) (fs : List FieldName) :
    r.checks { q with fields := fs.map FieldName.name } =
      (Moment.parse q.timestamp >>= fun since =>
        ((Connection.options r.settings).mapError .badVersion).map fun _ => (since, fs)) := by
  rw [checks_eq, Query.prepare]
  dsimp only
  rw [FieldName.mapM_parse_names]
  cases Moment.parse q.timestamp <;> rfl

/-- What is known already is handed on. -/
theorem ofExcept_ok_bind {α β : Type} (a : α) (f : α → Exchange σ β) :
    (Exchange.ofExcept (.ok a) >>= f) = f a :=
  rfl

/-- Two queries that name the same set of fields, and agree in everything else, are the same
    read. -/
theorem read_congr {fs gs : List FieldName} (h : ∀ f, f ∈ fs ↔ f ∈ gs) (r : Reader)
    (c : Consumer σ) (q : Query) :
    r.read c { q with fields := fs.map FieldName.name } =
      r.read c { q with fields := gs.map FieldName.name } := by
  rw [read_eq, read_eq, checks_named, checks_named]
  cases Moment.parse q.timestamp with
  | error e => rfl
  | ok since =>
      cases hoptions : Connection.options r.settings with
      | error e => rfl
      | ok options =>
          -- Both reads make the same consumer, and what they fetch is the same.
          change (Exchange.ofExcept (.ok (since, fs)) >>= _) =
            (Exchange.ofExcept (.ok (since, gs)) >>= _)
          rw [ofExcept_ok_bind, ofExcept_ok_bind]
          dsimp only
          have hfetch := fetch_congr h r c { q with fields := gs.map FieldName.name } since
          exact congrArg (fun body => Exchange.call (.consumerNew (some q.limit))
            (c.create (some q.limit)) >>= fun _ =>
              Exchange.closing body (Exchange.call .consumerClose c.close)) hfetch

end Reader

end RecordGateway
