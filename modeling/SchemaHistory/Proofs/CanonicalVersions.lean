import SchemaHistory.Proofs.JsonMembers
import SchemaHistory.Proofs.ValidationReport
import SchemaHistory.Schema.Codec.Catalog

/-!
The text that a version is written in stands for all texts that denote the version. It is read back, with
any blanks around it, and each version has one of its own. So it can be the key of a snapshot in a written
catalog and the route of its findings, and neither falls together with that of another version.
-/

namespace SchemaHistory

set_option autoImplicit false

namespace Version

/-- The text in which the version that a text denotes is written, if it denotes one. -/
def canonical? (source : String) : Option String := (parse? source).map dotted

theorem dotted_injective : Function.Injective dotted := fun _ _ same => dotted_inj.1 same

theorem canonical?_eq_some_iff {source text : String} :
    canonical? source = some text ↔ ∃ version, parse source = .ok version ∧ version.dotted = text := by
  unfold canonical? parse?
  cases parse source <;> simp [Except.toOption]

theorem canonical?_dotted (version : Version) : canonical? version.dotted = some version.dotted := by
  unfold canonical?
  rw [parse?_dotted]
  rfl

theorem canonical?_of_canonical {source text : String} (canonical : canonical? source = some text) :
    canonical? text = some text := by
  obtain ⟨version, -, rfl⟩ := canonical?_eq_some_iff.1 canonical
  exact canonical?_dotted version

theorem same_version_iff {left right : String} :
    (∃ version, parse left = .ok version ∧ parse right = .ok version) ↔
      ∃ text, canonical? left = some text ∧ canonical? right = some text := by
  simp only [canonical?_eq_some_iff]
  constructor
  · rintro ⟨version, isLeft, isRight⟩
    exact ⟨version.dotted, ⟨version, isLeft, rfl⟩, version, isRight, rfl⟩
  · rintro ⟨-, ⟨version, isLeft, rfl⟩, other, isRight, sameText⟩
    rw [dotted_injective sameText] at isRight
    exact ⟨version, isLeft, isRight⟩

end Version

namespace Catalog

theorem keys_nodup (catalog : Catalog) : (catalog.versions.map Version.dotted).Nodup :=
  catalog.versions_distinct.map Version.dotted_injective

theorem get?_dotted (catalog : Catalog) (version : Version) :
    (catalog.encode.get? "descriptions").bind (Json.get? version.dotted) =
      (catalog.snapshots.lookup version).map Snapshot.encode := by
  have renamed := lookup_map_entries Version.dotted_injective Snapshot.encode catalog.snapshots version
  rw [encode, Json.get?_cons, if_pos rfl]
  exact renamed

theorem messagesAt_dotted (catalog : Catalog) (version : Version) (path : List String) :
    catalog.findings.messagesAt (version.dotted :: path) =
      ((catalog.snapshots.lookup version).map fun snapshot => snapshot.findings.messagesAt path).getD [] := by
  cases known : catalog.snapshots.lookup version with
  | some snapshot =>
      have found : catalog.snapshot version = .ok snapshot := by rw [Catalog.snapshot, known]
      exact messagesAt_version (mem_of_snapshot found) path
  | none =>
      have others : ∀ entry ∈ catalog.snapshots, entry.1 ≠ version := by
        intro entry member same
        have differs := List.lookup_eq_none_iff.1 known entry member
        simp [same] at differs
      rw [messagesAt_findings, Findings.messagesAt_leaf_below, messagesAt_others others]
      rfl

end Catalog

namespace Version

/-- A version is read back from its text with any blanks around it. The text is that of no other version
and its own canonical text, so two texts denote one version exactly when they have one canonical text. As
keys and as routes the texts of the versions of a catalog lead to what belongs to these versions only. -/
theorem dotted_stands_for_version :
    (∀ (version : Version) (before after : List Char), Text.Blanks before → Text.Blanks after →
        parse (.ofList (before ++ version.dotted.toList ++ after)) = .ok version) ∧
      Function.Injective dotted ∧
      (∀ source version, parse source = .ok version →
        canonical? source = some version.dotted ∧ canonical? version.dotted = some version.dotted) ∧
      (∀ left right,
        (∃ version, parse left = .ok version ∧ parse right = .ok version) ↔
          ∃ text, canonical? left = some text ∧ canonical? right = some text) ∧
      ∀ catalog : Catalog, (catalog.versions.map dotted).Nodup ∧
        ∀ version,
          (catalog.encode.get? "descriptions").bind (Json.get? version.dotted) =
              (catalog.snapshots.lookup version).map Snapshot.encode ∧
            ∀ path, catalog.findings.messagesAt (version.dotted :: path) =
              ((catalog.snapshots.lookup version).map fun snapshot =>
                snapshot.findings.messagesAt path).getD [] := by
  refine ⟨?_, dotted_injective, ?_, fun left right => same_version_iff, ?_⟩
  · intro version before after blanksBefore blanksAfter
    exact parse_between_blanks blanksBefore blanksAfter version
  · intro source version isRead
    have canonical : canonical? source = some version.dotted :=
      canonical?_eq_some_iff.2 ⟨version, isRead, rfl⟩
    exact ⟨canonical, canonical?_of_canonical canonical⟩
  · intro catalog
    exact ⟨catalog.keys_nodup, fun version =>
      ⟨catalog.get?_dotted version, catalog.messagesAt_dotted version⟩⟩

/-- A version with the greatest component that there is, between blanks, and one that is written with a
sign, with a zero in front and without its patch. -/
theorem release_read_back :
    Text.Blanks ['\u3000', '\t'] ∧ Text.Blanks ['\n'] ∧
      parse "\u3000\t4294967295.0.10\n" = .ok ⟨4294967295, 0, 10⟩ ∧
      parse " +4.01" = .ok ⟨4, 1, 0⟩ ∧ canonical? " +4.01" = some "4.1.0" ∧
      canonical? "4.1.0" = some "4.1.0" := by
  obtain ⟨readBack, -, settled, -⟩ := dotted_stands_for_version
  have blanksBefore : Text.Blanks ['\u3000', '\t'] := by decide
  have blanksAfter : Text.Blanks ['\n'] := by decide
  have shortened : parse " +4.01" = .ok ⟨4, 1, 0⟩ := rfl
  obtain ⟨canonical, again⟩ := settled " +4.01" ⟨4, 1, 0⟩ shortened
  exact ⟨blanksBefore, blanksAfter,
    readBack ⟨4294967295, 0, 10⟩ ['\u3000', '\t'] ['\n'] blanksBefore blanksAfter, shortened,
    canonical, again⟩

end Version

end SchemaHistory
