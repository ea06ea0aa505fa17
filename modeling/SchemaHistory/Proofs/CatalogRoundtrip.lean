import SchemaHistory.Proofs.CollectedSnapshots
import SchemaHistory.Proofs.Roundtrip
import SchemaHistory.Schema.Codec.Catalog

/-!
A catalog is read back as it was written. Its snapshots are read in the order of the texts of their
versions, in which `10.0.0` stands before `2.0.0`; as each version is written once and in one way, they
are the snapshots of the catalog again, and a catalog puts them back into the order of the versions.
-/

namespace SchemaHistory

set_option autoImplicit false

open Json

namespace Catalog

variable {catalog : Catalog}

theorem snapshots_of_perm {pairs : List (Version × Snapshot)}
    (rearranged : pairs.Perm catalog.snapshots) : (ofList pairs).snapshots = catalog.snapshots := by
  have distinct : (pairs.map Prod.fst).Nodup := by
    rw [(rearranged.map Prod.fst).nodup_iff]
    exact catalog.versions_distinct
  rw [snapshots_ofList_iff]
  refine ⟨sorted_iff_numbers.1 catalog.ascending, ?_⟩
  intro version snapshot
  rw [standsLast_iff_mem distinct, rearranged.mem_iff]

def defaultValues (catalog : Catalog) : List DefaultValue :=
  catalog.snapshots.flatMap fun entry => entry.2.defaultValues

theorem decodeSnapshot?_encodeSnapshot {entry : Version × Snapshot}
    (plain : ∀ value ∈ entry.2.defaultValues, value.isPlain = true) :
    decodeSnapshot? (encodeSnapshot entry) = some entry := by
  unfold decodeSnapshot? encodeSnapshot
  rw [Version.parse?_dotted, Snapshot.decode?_encode plain]
  rfl

theorem decodeSnapshots?_of_plain
    (plain : ∀ value ∈ catalog.defaultValues, value.isPlain = true) :
    ∃ pairs, decodeSnapshots? (.object (catalog.snapshots.map encodeSnapshot)) = some pairs ∧
      pairs.Perm catalog.snapshots := by
  have readInOrder : ∀ pairs : List (Version × Snapshot), pairs.Perm catalog.snapshots →
      (pairs.map encodeSnapshot).mapM decodeSnapshot? = some pairs := by
    intro pairs rearranged
    apply mapM_map_of_inverse
    intro entry member
    apply decodeSnapshot?_encodeSnapshot
    intro value isDefault
    exact plain value (List.mem_flatMap.2 ⟨entry, rearranged.mem_iff.1 member, isDefault⟩)
  -- The order of the texts is an order of the snapshots, as each is written under one text.
  have ordered := List.map_mergeSort (f := encodeSnapshot) (l := catalog.snapshots)
    (r := fun left right => !Text.precedes right.1.dotted left.1.dotted)
    (s := fun left right => !Text.precedes right.1 left.1) fun _ _ _ _ => rfl
  have rearranged := List.mergeSort_perm catalog.snapshots fun left right =>
    !Text.precedes right.1.dotted left.1.dotted
  refine ⟨_, ?_, rearranged⟩
  rw [decodeSnapshots?, ← ordered]
  exact readInOrder _ rearranged

/-- Reading undoes writing, as long as no default value is a number with a fraction or a date. So
writing what was read from some value, however that spells it, and reading again changes nothing. -/
theorem read_back_as_written
    (plain : ∀ value ∈ catalog.defaultValues, value.isPlain = true) :
    decode? catalog.encode = some catalog ∧
      ∀ json, decode? json = some catalog → decode? catalog.encode = decode? json := by
  obtain ⟨pairs, snapshotsRead, rearranged⟩ := decodeSnapshots?_of_plain plain
  have descriptions :
      catalog.encode.required? "descriptions" decodeSnapshots? = some pairs :=
    required?_of_get? rfl snapshotsRead
  have checkpoints :
      catalog.encode.orDefault? "history_versions" (list? Version.decode?) [] =
        some catalog.checkpoints :=
    orDefault?_of_get? rfl (list?_array fun version _ => Version.decode?_encode version)
  have same : (ofList pairs).withCheckpoints catalog.checkpoints = catalog :=
    eq_of_lists (snapshots_of_perm rearranged) rfl
  have readBack : decode? catalog.encode = some catalog := by
    unfold decode?
    rw [descriptions, checkpoints]
    exact congrArg some same
  refine ⟨readBack, ?_⟩
  intro json isRead
  rw [readBack, isRead]

end Catalog

namespace Cinema

def ticket : Entity where
  name := "Ticket"
  isPersisted := true
  identifier := .relationships .string ["Seat"]
  addedAt := some ⟨2, 0, 0⟩
  previousName := some "Pass"
  mappings := some [⟨10, 0, 0⟩]
  properties :=
    [{ name := "rows", type := .array (.array (.scalar .int)), isExtra := true },
      { name := "seats", type := .toMany "Seat", isUnused := true },
      { name := "price", type := .scalar .int, isOptional := true, defaultValue := some (.int (-5)) },
      { name := "group", type := .subtype "Group", defaultValue := some (.enumCase "adult") },
      { name := "sold", type := .scalar .date, defaultValue := some .currentDate }]

def seat : Entity where
  name := "Seat"
  isRemote := true
  readsRemotely := true
  identifier := .property "number"
  mappings := some []
  properties := [{ name := "number", type := .scalar .string, defaultValue := some (.text "") }]

def sale : Entity := { name := "Sale" }

def boxOffice : Catalog where
  snapshots :=
    [(⟨2, 0, 0⟩, { entities := [ticket, sale] }),
      (⟨10, 0, 0⟩,
        { entities := [seat]
          subtypes :=
            [{ name := "Group", items := .cases ["adult", "child"] },
              { name := "Access", items := .options [] },
              { name := "Row", items := .properties [{ name := "index", type := .scalar .int }] }] })]
  checkpoints := [⟨10, 0, 0⟩, ⟨2, 0, 0⟩]
  ascending := by unfold Ascending.Sorted; decide

def sales : Catalog where
  snapshots := [(⟨2, 0, 0⟩, { entities := [sale] }), (⟨10, 0, 0⟩, {})]
  ascending := by unfold Ascending.Sorted; decide

/-- The sales as an author may write them, with defaults spelled out and a member that says nothing. -/
def salesByHand : Json :=
  .object [("descriptions", .object
    [(" 2.0", .object [("subtypes", .array []), ("entities", .array
        [.object [("identifier", .text "void"), ("name", .text "Sale"), ("persist", .bool false),
          ("comment", .text "new"), ("previous_name", .null)]])]),
      ("10.0.0", .object [])])]

theorem boxOffice_read_back :
    Catalog.decode? boxOffice.encode = some boxOffice ∧
      Catalog.decode? salesByHand = some sales ∧
      Catalog.decode? sales.encode = Catalog.decode? salesByHand := by
  have readByHand : Catalog.decode? salesByHand = some sales := by
    unfold Catalog.decode? salesByHand
    simp only [required?, get?_cons, if_pos, Option.bind_some, Catalog.decodeSnapshots?]
    rw [List.mergeSort_of_pairwise (by decide)]
    rfl
  exact ⟨(Catalog.read_back_as_written (by decide)).1, readByHand,
    (Catalog.read_back_as_written (by decide)).2 salesByHand readByHand⟩

end Cinema

end SchemaHistory
