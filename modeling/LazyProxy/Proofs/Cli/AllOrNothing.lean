import LazyProxy.Proofs.Cli.Effects
import LazyProxy.Proofs.Generator

/-!
This module contains that proxies are delivered only after all that may fail without them has
succeeded: before that nothing is printed, and no file changes. A check changes none at all.
-/

namespace LazyProxy.Cli

variable {manifest : String} {types : List String} {c : Config} {destination : Destination}
variable {t : FileTree} {r : Registry} {ss : List Source}

/-- The names of the types to generate, which are all that are declared if none is asked for. -/
def selectedNames (r : Registry) (types : List String) : List String :=
  if types.isEmpty then r.names else types

theorem selectSources_eq_ok_iff
    : selectSources r types c = .ok ss
        ↔
      (selectedNames r types).map (c.generateNamed r) = ss.map .ok := by
  rw [selectSources, mapError_eq_ok_iff, ← Config.generateEach_eq_ok_iff, selectedNames]
  split
  . rfl
  . rfl

theorem selectSources_ne_ok {name : String} {e : GenerationError}
    (hname : name ∈ selectedNames r types) (h : c.generateNamed r name = .error e)
    : selectSources r types c ≠ .ok ss := by
  rw [Ne, selectSources_eq_ok_iff]
  intro hsources
  have hmem := List.mem_map_of_mem (f := c.generateNamed r) hname
  rw [hsources, h, List.mem_map] at hmem
  rcases hmem with ⟨s, -, hs⟩
  contradiction

/-- What a request for proxies comes to before any of them is delivered. -/
def Prepares (manifest : String) (types : List String) (c : Config) (t : FileTree)
    (ss : List Source) : Prop :=
  ∃ r, Loads manifest t r ∧ selectSources r types c = .ok ss

theorem run_generate_of_prepares (h : Prepares manifest types c t ss)
    : ((Command.generate manifest types c destination).execute : StateM FileTree Report) t
        =
      (deliver destination ss : StateM FileTree Report) t := by
  rcases h with ⟨r, hr, hselect⟩
  rw [Command.execute, run_withRegistry_of_loads hr, hselect]

theorem run_generate_of_not_prepares (h : ¬∃ ss, Prepares manifest types c t ss)
    : ∃ e, ((Command.generate manifest types c destination).execute : StateM FileTree Report) t
        =
      ({ failure := some e }, t) := by
  rw [Command.execute]
  by_cases hloads : ∃ r, Loads manifest t r
  . rcases hloads with ⟨r, hr⟩
    rw [run_withRegistry_of_loads hr]
    cases hselect : selectSources r types c with
    | error e => exact ⟨e, rfl⟩
    | ok ss => exact absurd ⟨ss, r, hr, hselect⟩ h
  . exact run_withRegistry_of_not_loads hloads _

theorem deliver_of_leadsUpwards {directory : String} (h : leadsUpwards directory) (check : Bool)
    : (deliver (.directory directory check) ss : StateM FileTree Report) t
        =
      ({ failure := some (.upwards directory) }, t) := by
  rw [deliver, if_pos h]
  rfl

theorem deliver_check {directory : String} (h : ¬leadsUpwards directory)
    : (deliver (.directory directory true) ss : StateM FileTree Report)
        =
      checkSources directory ss := by
  rw [deliver, if_neg h]
  rfl

theorem readsOnly_deliver_check (directory : String) (ss : List Source)
    : ReadsOnly (deliver (.directory directory true) ss) := by
  by_cases h : leadsUpwards directory
  . intro t
    rw [deliver_of_leadsUpwards h]
  . rw [deliver_check h]
    exact readsOnly_checkSources directory ss

theorem Report.exitCode_eq_zero_iff (report : Report)
    : report.exitCode = 0 ↔ report.failure = none := by
  unfold exitCode
  cases report.failure with
  | none => simp
  | some e => simp

theorem run_generate_of_failure
    (h : (¬∃ r, Loads manifest t r)
          ∨
        (∃ r, Loads manifest t r
          ∧ ∃ name ∈ selectedNames r types, ∃ e, c.generateNamed r name = .error e)
          ∨
        (∃ directory check, destination = .directory directory check ∧ leadsUpwards directory))
    : ∃ e, ((Command.generate manifest types c destination).execute : StateM FileTree Report) t
        =
      ({ failure := some e }, t) := by
  by_cases hprepares : ∃ ss, Prepares manifest types c t ss
  . -- What is left of the failures is the directory.
    rcases hprepares with ⟨ss, hss⟩
    rw [run_generate_of_prepares hss]
    rcases hss with ⟨r, hr, hselect⟩
    rcases h with hloads | ⟨r', hr', name, hname, e, he⟩ | ⟨directory, check, rfl, hup⟩
    . exact absurd ⟨r, hr⟩ hloads
    . rw [hr'.eq hr] at hname he
      exact absurd hselect (selectSources_ne_ok hname he)
    . exact ⟨_, deliver_of_leadsUpwards hup check⟩
  . exact run_generate_of_not_prepares hprepares

theorem readsOnly_generate_check (manifest : String) (types : List String) (c : Config)
    (directory : String)
    : ReadsOnly (Command.generate manifest types c (.directory directory true)).execute := by
  intro t
  by_cases hprepares : ∃ ss, Prepares manifest types c t ss
  . rcases hprepares with ⟨ss, hss⟩
    rw [run_generate_of_prepares hss, readsOnly_deliver_check directory ss t]
  . rcases run_generate_of_not_prepares hprepares with ⟨e, he⟩
    rw [he]

theorem failure_generate_check_iff {directory : String} (h : Prepares manifest types c t ss)
    (hup : ¬leadsUpwards directory)
    : (((Command.generate manifest types c (.directory directory true)).execute :
          StateM FileTree Report) t).1.failure = none
        ↔
      ∀ s ∈ ss, s.IsCurrentIn directory t := by
  rw [run_generate_of_prepares h, deliver_check hup, failure_checkSources_iff]

/-- If the manifest cannot be loaded, if one of the types cannot be resolved or generated, or if the
directory leads upwards, nothing is printed and the tree is what it was. A check leaves it as it is
in any case. It succeeds, once all sources are there, if each is what its file holds. -/
theorem generate_all_or_nothing (manifest : String) (types : List String) (c : Config)
    (destination : Destination) (t u : FileTree) (report : Report)
    (hrun : ((Command.generate manifest types c destination).execute : StateM FileTree Report) t
      = (report, u))
    : ((¬∃ r, Loads manifest t r)
          ∨
        (∃ r, Loads manifest t r
          ∧ ∃ name ∈ selectedNames r types, ∃ e, c.generateNamed r name = .error e)
          ∨
        (∃ directory check, destination = .directory directory check ∧ leadsUpwards directory) →
      report.exitCode = 1 ∧ report.output = "" ∧ u = t)
        ∧
      ∀ directory, destination = .directory directory true →
        u = t
          ∧
        ∀ (r : Registry) (ss : List Source), Loads manifest t r →
          (selectedNames r types).map (c.generateNamed r) = ss.map .ok →
          ¬leadsUpwards directory →
          (report.exitCode = 0 ↔ ∀ s ∈ ss, ∃ names, t.locate (s.pathIn directory) = .ok names
            ∧ t.file? names = some (.text s.code)) := by
  constructor
  . intro hfail
    rcases run_generate_of_failure hfail with ⟨e, he⟩
    rw [hrun] at he
    cases he
    exact ⟨rfl, rfl, rfl⟩
  . rintro directory rfl
    constructor
    . have htree := readsOnly_generate_check manifest types c directory t
      rwa [hrun] at htree
    . intro r ss hr hselect hup
      have hprepares : Prepares manifest types c t ss :=
        ⟨r, hr, selectSources_eq_ok_iff.mpr hselect⟩
      have hfailure := failure_generate_check_iff hprepares hup
      rw [hrun] at hfailure
      simp only [Report.exitCode_eq_zero_iff, hfailure, isCurrentIn_iff]

/-- Two types, one of which extends a type that is not declared. -/
def orphans : Registry :=
  .ofList [{ name := "Article" }, { name := "Reply", parent := some "Comment" }]

def orphanManifest : String :=
  "\x7b\"types\":[\x7b\"name\":\"Article\"\x7d," ++
    "\x7b\"name\":\"Reply\",\"extends\":\"Comment\"\x7d]\x7d"

/-- The code of the only proxy that can be generated. -/
def articleCode : String :=
  (({} : Config).generateNamed orphans "Article").toOption.elim "" Source.code

/-- Files of which none is out of date. -/
def currentFiles : FileTree where
  files := [(["types.json"], .text orphanManifest),
    (["gen", "_Proxy", "Article.php"], .text articleCode)]
  directories := [["gen"], ["gen", "_Proxy"]]

theorem loads_currentFiles : Loads "types.json" currentFiles orphans := by
  have hsize : currentFiles.fileSize "types.json" = .ok orphanManifest.utf8ByteSize := by
    decide +kernel
  have htext : currentFiles.readText "types.json" = .ok orphanManifest := by
    decide +kernel
  apply loads_of_declarations hsize _ htext
  . decide +kernel
  . decide

/-- All proxies together fail at the second type and change nothing. The first type passes a check. -/
theorem generate_all_or_nothing_orphans
    : (∃ report u, ((Command.generate "types.json" [] {} (.directory "gen" false)).execute :
          StateM FileTree Report) currentFiles = (report, u)
        ∧
      report.exitCode = 1 ∧ report.output = "" ∧ u = currentFiles)
        ∧
      (∃ report u, ((Command.generate "types.json" ["Article"] {} (.directory "gen" true)).execute :
          StateM FileTree Report) currentFiles = (report, u)
        ∧
      report.exitCode = 0 ∧ u = currentFiles) := by
  constructor
  . have herror : ({} : Config).generateNamed orphans "Reply"
        = .error (.resolution (.unknownParent "Reply" "Comment")) := by
      decide +kernel
    have hname : "Reply" ∈ selectedNames orphans [] := by decide
    cases hrun : ((Command.generate "types.json" [] {} (.directory "gen" false)).execute :
        StateM FileTree Report) currentFiles with
    | mk report u =>
      have hall := (generate_all_or_nothing _ _ _ _ _ u report hrun).left
      exact ⟨report, u, rfl,
        hall (Or.inr (Or.inl ⟨orphans, loads_currentFiles, "Reply", hname, _, herror⟩))⟩
  . have hpath : (({} : Config).generateNamed orphans "Article").map Source.path
        = .ok "_Proxy/Article.php" := by
      decide +kernel
    have hplace : currentFiles.locate (appendPath "gen" "_Proxy/Article.php")
          = .ok ["gen", "_Proxy", "Article.php"]
        ∧
        currentFiles.file? ["gen", "_Proxy", "Article.php"] = some (.text articleCode) := by
      refine ⟨?_, rfl⟩
      decide +kernel
    rcases map_eq_ok_iff.mp hpath with ⟨source, hsource, hpath⟩
    have hcode : articleCode = source.code := by
      rw [articleCode, hsource]
      rfl
    cases hrun : ((Command.generate "types.json" ["Article"] {} (.directory "gen" true)).execute :
        StateM FileTree Report) currentFiles with
    | mk report u =>
      have hcheck := (generate_all_or_nothing _ _ _ _ _ u report hrun).right "gen" rfl
      refine ⟨report, u, rfl, ?_, hcheck.left⟩
      apply (hcheck.right orphans [source] loads_currentFiles _ _).mpr
      . rw [List.forall_mem_singleton, Source.pathIn, hpath, ← hcode]
        exact ⟨_, hplace⟩
      . simpa [selectedNames] using hsource
      . decide

end LazyProxy.Cli
