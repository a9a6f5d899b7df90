import Madara.ChainConfig.VersionedConstants

/-! `Deserialize for ChainVersionedConstants` (`chain_config.rs`). The YAML gives a map
from version strings to JSON files; the loop opens, reads and parses each file, then
parses its version string, in ascending order of the version strings, and inserts the
result; the first failure is the error. The files, the JSON parser of
`VersionedConstants` and `StarknetVersion::from_str` lie outside `src/` and are
parameters. The loop builds what `From<[(StarknetVersion, VersionedConstants); N]>`
builds from the loaded pairs, so of two version strings naming one version, the
greater one's file wins. -/
namespace Madara.Chain

variable {K V : Type} [LinearOrder K]

/-- What the deserializer reads besides the map of file paths. -/
structure ConstantsSource (K V : Type) where
  /-- `File::open` then `read_to_string`: `none` when the file does not open, `some none`
  when its contents do not read as a string. -/
  readFile : String → Option (Option String)
  /-- `serde_json::from_str::<VersionedConstants>`. -/
  parseJson : String → Option V
  /-- `StarknetVersion::from_str`. -/
  parseVersion : String → Option K

/-- One iteration of the loop: the file at `path`, then the version string. -/
def loadVersionedConstants (source : ConstantsSource K V) (version path : String) :
    Except String (K × V) := do
  let contents ← match source.readFile path with
    | none => throw ("Failed to open file: " ++ path)
    | some none => throw ("Failed to read contents of file: " ++ path)
    | some (some contents) => pure contents
  let constants ← match source.parseJson contents with
    | none => throw ("Failed to parse JSON in file: " ++ path)
    | some constants => pure constants
  let parsedVersion ← match source.parseVersion version with
    | none => throw ("Failed to parse version string: " ++ version)
    | some parsedVersion => pure parsedVersion
  pure (parsedVersion, constants)

/-- The deserializer once `file_paths: BTreeMap<String, String>` is read (the same sorted
map model, keyed by strings): the loop over its entries into `result`. -/
def deserialize (source : ConstantsSource K V) (filePaths : ChainVersionedConstants String String) :
    Except String (ChainVersionedConstants K V) :=
  filePaths.entries.foldlM (fun result (version, path) => do
    let (parsedVersion, constants) ← loadVersionedConstants source version path
    pure (result.insert parsedVersion constants)) .empty

theorem foldlM_load (source : ConstantsSource K V) :
    ∀ (entries : List (String × String)) (result : ChainVersionedConstants K V),
      entries.foldlM (fun result (version, path) => do
          let (parsedVersion, constants) ← loadVersionedConstants source version path
          pure (result.insert parsedVersion constants)) result =
        (entries.mapM fun e => loadVersionedConstants source e.1 e.2).map
          (·.foldl (fun m e => m.insert e.1 e.2) result)
  | [], _ => rfl
  | (version, path) :: rest, result => by
    simp only [List.foldlM_cons, List.mapM_cons]
    cases loadVersionedConstants source version path with
    | error message => rfl
    | ok loaded =>
      have tail := foldlM_load source rest (result.insert loaded.1 loaded.2)
      simp only [bind, Except.bind, pure, Except.pure] at tail ⊢
      rw [tail]
      cases rest.mapM fun e => loadVersionedConstants source e.1 e.2 <;> rfl

theorem exists_first_cons {α : Type} {passes fails : α → Prop} {x : α} {rest : List α} :
    (∃ before z after, x :: rest = before ++ z :: after ∧ (∀ b ∈ before, passes b) ∧ fails z) ↔
      fails x ∨ passes x ∧
        ∃ before z after, rest = before ++ z :: after ∧ (∀ b ∈ before, passes b) ∧ fails z := by
  constructor
  · rintro ⟨_ | ⟨b, before⟩, z, after, split, fine, bad⟩
    · cases split; exact .inl bad
    · simp only [List.cons_append, List.cons.injEq] at split
      obtain ⟨rfl, rfl⟩ := split
      exact .inr ⟨fine _ (List.mem_cons_self _ _), before, z, after, rfl,
        fun c member => fine c (List.mem_cons_of_mem _ member), bad⟩
  · rintro (bad | ⟨fine, before, z, after, rfl, rest, bad⟩)
    · exact ⟨[], x, rest, rfl, nofun, bad⟩
    · exact ⟨x :: before, z, after, rfl, List.forall_mem_cons.mpr ⟨fine, rest⟩, bad⟩

theorem mapM_eq_error_iff {α β : Type} (f : α → Except String β) (message : String) :
    ∀ xs : List α, xs.mapM f = .error message ↔
      ∃ before x after, xs = before ++ x :: after ∧ (∀ b ∈ before, ∃ y, f b = .ok y) ∧
        f x = .error message
  | [] => ⟨nofun, fun ⟨before, _, _, split, _⟩ => by simp at split⟩
  | x :: rest => by
    rw [exists_first_cons, ← mapM_eq_error_iff f message rest, List.mapM_cons]
    cases f x <;> cases rest.mapM f <;> simp [bind, Except.bind, pure, Except.pure]

theorem deserialize_eq_ok_iff (source : ConstantsSource K V)
    (filePaths : ChainVersionedConstants String String) (m : ChainVersionedConstants K V) :
    deserialize source filePaths = .ok m ↔
      ∃ loaded, (filePaths.entries.mapM fun e => loadVersionedConstants source e.1 e.2) =
          .ok loaded ∧ m = .ofArray loaded := by
  rw [deserialize, foldlM_load]
  cases filePaths.entries.mapM fun e => loadVersionedConstants source e.1 e.2 with
  | error _ => exact ⟨nofun, fun ⟨_, failed, _⟩ => nomatch failed⟩
  | ok loaded =>
    refine ⟨fun built => ⟨loaded, rfl, (Except.ok.inj built).symm⟩, ?_⟩
    rintro ⟨_, ⟨⟩, rfl⟩
    rfl

theorem deserialize_eq_error_iff (source : ConstantsSource K V)
    (filePaths : ChainVersionedConstants String String) (message : String) :
    deserialize source filePaths = .error message ↔
      ∃ before e after, filePaths.entries = before ++ e :: after ∧
        (∀ b ∈ before, ∃ loaded, loadVersionedConstants source b.1 b.2 = .ok loaded) ∧
        loadVersionedConstants source e.1 e.2 = .error message := by
  rw [deserialize, foldlM_load, ← mapM_eq_error_iff]
  cases filePaths.entries.mapM fun e => loadVersionedConstants source e.1 e.2 <;>
    simp [Except.map]

end Madara.Chain
