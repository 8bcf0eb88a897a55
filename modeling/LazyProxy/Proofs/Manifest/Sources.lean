import LazyProxy.Proofs.Cli.AllOrNothing
import LazyProxy.Proofs.Manifest.Loading
import LazyProxy.Proofs.Manifest.RoundTrip

/-!
This module contains the way from the entries of a manifest to sources: each entry has one source, which
every spelling of its name leads to, or the first entry that fails gives the error.
-/

namespace LazyProxy

/-- Spellings of one key lead to the same type. -/
theorem Registry.resolve_eq_ok_iff_of_lookupKey?_eq {r : Registry} {a b : String}
    (h : lookupKey? a = lookupKey? b) {d : Descriptor}
    : r.resolve a = .ok d ↔ r.resolve b = .ok d := by
  unfold resolve
  rw [h]
  cases lookupKey? b with
  | none => rfl
  | some key =>
    dsimp only
    cases r.find? key with
    | none => simp
    | some e => rfl

theorem Config.exists_generateNamed_iff {c : Config} {r : Registry} {name : String}
    : (∃ s, c.generateNamed r name = .ok s)
        ↔
      ∃ d s, r.resolve name = .ok d ∧ c.generate d = .ok s := by
  simp only [generateNamed_eq_ok_iff]
  exact exists_comm

/-- A command that asks for one type prints its source as it is. -/
theorem Cli.run_generate_named {manifest : String} {c : Config} {t : FileTree} {r : Registry}
    {name : String} {s : Source} (hr : Loads manifest t r) (h : c.generateNamed r name = .ok s)
    : ((Command.generate manifest [name] c .standardOutput).execute : StateM FileTree Report) t
        =
      ({ output := s.code }, t) := by
  have hselect : selectSources r [name] c = .ok [s] := by
    rw [selectSources_eq_ok_iff, selectedNames, if_neg (by simp), List.map_singleton, h]
    rfl
  rw [run_generate_of_prepares ⟨r, hr, hselect⟩]
  simp [deliver, run_pure, Text.join]

namespace Manifest

theorem generateAll_eq_error_iff {m : Manifest} {r : Registry} (h : m.registry = .ok r) {c : Config}
    {e : GenerationError}
    : c.generateAll r = .error e
        ↔
      ∃ before entry after, m.types = before ++ entry :: after
        ∧
      (∀ b ∈ before, ∃ s, c.generateNamed r b.name = .ok s)
        ∧
      c.generateNamed r entry.name = .error e := by
  rw [Config.generateAll, Config.generateEach_eq_error_iff, names_of_registry h]
  constructor
  . rintro ⟨before, name, after, hnames, hbefore, he⟩
    rcases List.map_eq_append_iff.mp hnames with ⟨first, others, htypes, rfl, hothers⟩
    rcases List.map_eq_cons_iff.mp hothers with ⟨entry, rest, rfl, rfl, rfl⟩
    exact ⟨first, entry, rest, htypes,
      fun b hb => hbefore b.name (List.mem_map_of_mem hb), he⟩
  . rintro ⟨before, entry, after, htypes, hbefore, he⟩
    exact ⟨before.map TypeEntry.name, entry.name, after.map TypeEntry.name, by simp [htypes],
      List.forall_mem_map.mpr hbefore, he⟩

/-- A manifest that declares a type again fails with the name that it has there. Any other one declares
its entries in their order. If all of them can be generated, each has its source at its place, which is
what any spelling of its name asks for; if not, the first entry that cannot be generated gives the
error. -/
theorem sources_of_entries (m : Manifest) (c : Config)
    : (∀ e, m.registry.mapError ManifestError.duplicateType = .error e
          ↔
        ∃ before entry after, m.types = before ++ entry :: after
          ∧
        ((before.map TypeEntry.declaration).map Declaration.key).Nodup
          ∧
        (∃ d ∈ before, d.declaration.key = entry.declaration.key) ∧ e = .duplicateType entry.name)
        ∧
      ∀ r, m.registry = .ok r →
        r.names = m.types.map TypeEntry.name
          ∧
        ((∃ sources, c.generateAll r = .ok sources)
            ↔
          ∀ entry ∈ m.types, ∃ d s, r.resolve entry.name = .ok d ∧ c.generate d = .ok s)
          ∧
        (∀ sources, c.generateAll r = .ok sources →
          sources.length = m.types.length
            ∧
          ∀ (i : Nat) (entry : TypeEntry) (name : String) (n : QualifiedName),
            m.types[i]? = some entry → QualifiedName.parse? entry.name = some n →
              QualifiedName.parse? name = some n →
                ∃ d s, r.resolve name = .ok d ∧ c.generate d = .ok s ∧ sources[i]? = some s
                  ∧
                ∀ manifest t, Cli.Loads manifest t r →
                  ((Cli.Command.generate manifest [name] c .standardOutput).execute :
                    StateM FileTree Cli.Report) t = ({ output := s.code }, t))
          ∧
        ∀ e, c.generateAll r = .error e
            ↔
          ∃ before entry after, m.types = before ++ entry :: after
            ∧
          (∀ b ∈ before, ∃ s, c.generateNamed r b.name = .ok s)
            ∧
          c.generateNamed r entry.name = .error e := by
  constructor
  . intro e
    rw [mapError_eq_error_iff]
    simp only [registry_eq_error_iff]
    constructor
    . rintro ⟨_, ⟨before, entry, after, htypes, rfl, hnodup, hkey⟩, rfl⟩
      exact ⟨before, entry, after, htypes, hnodup, hkey, rfl⟩
    . rintro ⟨before, entry, after, htypes, hnodup, hkey, rfl⟩
      exact ⟨entry.name, ⟨before, entry, after, htypes, rfl, hnodup, hkey⟩, rfl⟩
  . intro r hr
    refine ⟨names_of_registry hr, ?_, ?_, fun e => generateAll_eq_error_iff hr⟩
    . rw [exists_generateAll_iff hr]
      simp only [Config.exists_generateNamed_iff]
    . intro sources hsources
      refine ⟨length_generateAll hr hsources, ?_⟩
      intro i entry name n hentry hn hname
      rcases getElem?_generateAll hr hsources hentry with ⟨s, hs, hnamed⟩
      rcases Config.generateNamed_eq_ok hnamed with ⟨d, hd, hgenerate⟩
      have hkeys : lookupKey? entry.name = lookupKey? name := by
        rw [lookupKey?, lookupKey?, hn, hname]
      rw [Registry.resolve_eq_ok_iff_of_lookupKey?_eq hkeys] at hd
      have hsame : c.generateNamed r name = .ok s :=
        Config.generateNamed_eq_ok_iff.mpr ⟨d, hd, hgenerate⟩
      exact ⟨d, s, hd, hgenerate, hs, fun manifest t hloads => Cli.run_generate_named hloads hsame⟩

/-- A type and one that extends it. -/
def threads : Manifest where
  types := [{ name := "App\\Comment", properties := [.name "body"] },
    { name := "App\\Reply", parent := some "App\\Comment" }]

/-- A file with the manifest. -/
def threadFiles : FileTree where
  files := [(["types.json"], .text threads.toJson.text)]

theorem loads_threadFiles {r : Registry} (h : threads.registry = .ok r)
    : Cli.Loads "types.json" threadFiles r := by
  have hread : ofText threads.toJson.text = .ok threads :=
    ofText_eq_ok (Json.holds_ofText (isPlain_toJson threads) (by decide))
  have hsize : threadFiles.fileSize "types.json" = .ok threads.toJson.text.utf8ByteSize := by
    decide +kernel
  refine ⟨_, threads.toJson.text, hsize, by decide +kernel, by decide +kernel, ?_⟩
  rw [registryOfText, hread, bind_eq_ok_iff]
  exact ⟨threads, rfl, mapError_eq_ok_iff.mpr h⟩

/-- The second type is found in another spelling. Declared again in this spelling it is an error. -/
theorem sources_of_entries_threads
    : ({ types := threads.types ++ [{ name := " App::Reply" }] } : Manifest).registry.mapError
          ManifestError.duplicateType = .error (.duplicateType " App::Reply")
        ∧
      ∃ r sources s, threads.registry = .ok r ∧ ({} : Config).generateAll r = .ok sources
        ∧
      sources[1]? = some s ∧ s.className = "App\\_Proxy\\Reply"
        ∧
      ((Cli.Command.generate "types.json" [" App::Reply"] {} .standardOutput).execute :
        StateM FileTree Cli.Report) threadFiles = ({ output := s.code }, threadFiles) := by
  constructor
  . refine ((sources_of_entries _ {}).left _).mpr ⟨threads.types, _, [], rfl, by decide, ?_, rfl⟩
    exact ⟨{ name := "App\\Reply", parent := some "App\\Comment" }, by decide, by decide⟩
  . let r : Registry := ⟨threads.types.map TypeEntry.declaration, by decide⟩
    have hr : threads.registry = .ok r := registry_eq_ok_iff.mpr rfl
    have hclasses : (({} : Config).generateAll r).map (·.map Source.className)
        = .ok ["App\\_Proxy\\Comment", "App\\_Proxy\\Reply"] := by
      decide +kernel
    rcases map_eq_ok_iff.mp hclasses with ⟨sources, hsources, hnames⟩
    rcases (sources_of_entries threads {}).right r hr with ⟨-, -, hplaces, -⟩
    rcases (hplaces sources hsources).right 1 _ " App::Reply" ⟨["App", "Reply"]⟩ rfl (by decide)
      (by decide) with ⟨d, s, -, -, hs, hprint⟩
    have hname := congrArg (·[1]?) hnames
    exact ⟨r, sources, s, hr, hsources, hs, by simpa [hs] using hname,
      hprint "types.json" threadFiles (loads_threadFiles hr)⟩

end Manifest

end LazyProxy
