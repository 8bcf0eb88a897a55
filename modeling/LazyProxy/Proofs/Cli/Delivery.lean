import LazyProxy.Proofs.Cli.Output
import LazyProxy.Proofs.Target.Paths

/-!
This module contains that a directory of PHP proxies is settled once it has been written: each file
holds the code of its source, however often the source was asked for, and nothing else has changed.
-/

namespace LazyProxy.Cli

variable {c : Config} {r : Registry} {types : List String} {ss : List Source} {directory : String}

theorem exists_generateNamed_of_selectSources (h : selectSources r types c = .ok ss)
    : ∀ s ∈ ss, ∃ name, c.generateNamed r name = .ok s := by
  unfold selectSources at h
  rw [mapError_eq_ok_iff] at h
  intro s hs
  split at h
  . exact Config.exists_generateNamed_of_mem h hs
  . exact Config.exists_generateNamed_of_mem h hs

theorem consistent_of_selectSources (hphp : c.target = .php) (h : selectSources r types c = .ok ss)
    (hup : ¬leadsUpwards directory) (t : FileTree)
    : Consistent directory ss t := by
  intro a ha b hb names hla hlb
  rcases exists_generateNamed_of_selectSources h a ha with ⟨m, hm⟩
  rcases exists_generateNamed_of_selectSources h b hb with ⟨n, hn⟩
  rcases Config.exists_proxy_of_generateNamed hm with ⟨_, proxy, -, -, hwell, -, -, hapath⟩
  rcases Config.exists_proxy_of_generateNamed hn with ⟨_, proxy', -, -, hwell', -, -, hbpath⟩
  have hnames : pathNames a.path = pathNames b.path := by
    apply FileTree.pathNames_eq_of_locate _ _ _ hla hlb
    . rw [hapath, ProxyClass.startsWith_relativePath hwell]
    . rw [hbpath, ProxyClass.startsWith_relativePath hwell']
    . rw [leadsUpwards_iff] at hup
      simp only [List.mem_append, not_or, hapath, hbpath]
      exact ⟨⟨hup, ProxyClass.not_mem_pathNames_relativePath hwell _⟩,
        ProxyClass.not_mem_pathNames_relativePath hwell' _⟩
  rw [Config.eq_of_pathNames_eq hphp hm hn hnames]

/-- If writing PHP proxies succeeds, each file holds the code of its source, and all other files are
what they were. A check then succeeds, and writing again finds nothing to do. -/
theorem deliver_php_settles (c : Config) (hphp : c.target = .php) (r : Registry)
    (types : List String) (ss : List Source) (hsources : selectSources r types c = .ok ss)
    (directory : String) (t u : FileTree) (report : Report)
    (hrun : (deliver (.directory directory false) ss : StateM FileTree Report) t = (report, u))
    (hok : report.failure = none)
    : (∀ s ∈ ss, u.readText (s.pathIn directory) = .ok s.code)
        ∧
      (∀ names, (∀ s ∈ ss, u.locate (s.pathIn directory) ≠ .ok names) →
        u.file? names = t.file? names)
        ∧
      (deliver (.directory directory true) ss : StateM FileTree Report) u
          = ({ output := "✓ " ++ toString ss.length ++ " proxy file(s) up to date\n" }, u)
        ∧
      (deliver (.directory directory false) ss : StateM FileTree Report) u
          = ({ output := "✓ 0 proxy file(s) written, " ++ toString ss.length ++ " unchanged\n" }, u)
    := by
  rcases deliver_eq_ok hrun hok with ⟨hup, count, hwrite⟩
  have hconsistent := consistent_of_selectSources hphp hsources hup u
  rcases writeEach_eq_ok hwrite hconsistent with ⟨hcurrent, hframe⟩
  refine ⟨hcurrent, ?_, deliver_of_isCurrentIn hup hcurrent⟩
  intro names hnames
  apply hframe.file? names
  rintro ⟨s, hs, hlocate⟩
  exact hnames s hs hlocate

/-- A type and one that extends it. -/
def articles : Registry :=
  .ofList [{ name := "App\\Article", methods := ["getTitle"] },
    { name := "App\\Reply", parent := some "App::Article" }]

/-- Files of which one is out of date and one is no text. -/
def staleFiles : FileTree where
  files := [(["home", "gen", "App", "_Proxy", "Article.php"], .text "<?php\n"),
    (["home", "gen", "App", "_Proxy", "Reply.php"], .binary 2 "??"),
    (["home", "notes.txt"], .text "keep")]
  directories := [["home"], ["home", "gen"], ["home", "gen", "App"], ["home", "gen", "App", "_Proxy"]]
  home := ["home"]

/-- Of the files of two types, one of which is asked for twice, both are written once. -/
theorem deliver_php_settles_articles
    : ∃ ss report u,
      selectSources articles ["App\\Article", "App\\Reply", "::App::Article"] { banner := "" }
          = .ok ss
        ∧
      (deliver (.directory "./gen/" false) ss : StateM FileTree Report) staleFiles = (report, u)
        ∧
      report = { output := "✓ 2 proxy file(s) written, 1 unchanged\n" }
        ∧
      (∀ s ∈ ss, u.readText (s.pathIn "./gen/") = .ok s.code)
        ∧
      (deliver (.directory "./gen/" false) ss : StateM FileTree Report) u
          = ({ output := "✓ 0 proxy file(s) written, 3 unchanged\n" }, u) := by
  let config : Config := { banner := "" }
  let selected := selectSources articles ["App\\Article", "App\\Reply", "::App::Article"] config
  have hlengths : selected.map List.length = .ok 3 := by decide +kernel
  have hreport : ((deliver (.directory "./gen/" false) (selected.toOption.getD []) :
        StateM FileTree Report) staleFiles).1
      = { output := "✓ 2 proxy file(s) written, 1 unchanged\n" } := by
    decide +kernel
  rcases map_eq_ok_iff.mp hlengths with ⟨ss, hselected, hlength⟩
  rw [hselected] at hreport
  cases hrun : (deliver (.directory "./gen/" false) ss : StateM FileTree Report) staleFiles with
  | mk report u =>
    have hreport : report = { output := "✓ 2 proxy file(s) written, 1 unchanged\n" } := by
      rw [← hreport]
      exact (congrArg Prod.fst hrun).symm
    have h := deliver_php_settles config rfl articles _ ss hselected "./gen/" staleFiles u report
      hrun (by rw [hreport])
    refine ⟨ss, report, u, hselected, hrun, hreport, h.left, ?_⟩
    rw [h.right.right.right, hlength]
    rfl

end LazyProxy.Cli
