import LazyProxy.Proofs.Target.PhpShape
import LazyProxy.Proofs.Target.RustReader

/-!
This module contains that the proxies of a type in both languages are one proxy: what is read from the
class in PHP are the functions that the items in Rust have.
-/

namespace LazyProxy.Rust

open Code

theorem render_eq_ok_iff {proxy : ProxyClass} {config : Config} {code : String}
    : render proxy config = .ok code
        ↔
      ∃ is read, items proxy .everyone = .ok is ∧ readBack is = .ok read
        ∧
      code = header config.banner (Text.join "::" proxy.namespaceSegments) ++ fileText read := by
  simp only [render, bind_eq_ok_iff, mapError_eq_ok_iff, Except.ok.injEq]
  constructor
  . rintro ⟨is, his, read, hread, rfl⟩
    exact ⟨is, read, his, hread, rfl⟩
  . rintro ⟨is, read, his, hread, rfl⟩
    exact ⟨is, his, read, hread, rfl⟩

theorem exists_items_of_generate {c : Config} {d : Descriptor} {source : Source}
    (hrust : c.target = .rust) (h : c.generate d = .ok source)
    : ∃ proxy is read, c.model d = .ok proxy
        ∧
      items proxy .everyone = .ok is ∧ readBack is = .ok read
        ∧
      source.code
        =
      header c.banner (Text.join "::" proxy.namespaceSegments) ++ fileText read := by
  rcases Config.generate_eq_ok h with ⟨proxy, hmodel, hrender, -⟩
  rw [hrust, Target.render, render_eq_ok_iff] at hrender
  rcases hrender with ⟨is, read, hrender⟩
  exact ⟨proxy, is, read, hmodel, hrender⟩

end LazyProxy.Rust

namespace LazyProxy.Config

open Code
open Rust (inherentFunctions memberOf? plain)

theorem members_eq_of_model {c c' : Config} {d : Descriptor} {proxy proxy' : ProxyClass}
    (h : c.model d = .ok proxy) (h' : c'.model d = .ok proxy')
    : proxy.members = proxy'.members := by
  rcases model_eq_ok h with ⟨s, marker, hcollect, -, rfl⟩
  rcases model_eq_ok h' with ⟨s', marker', hcollect', -, rfl⟩
  rw [hcollect, Except.ok.injEq] at hcollect'
  rw [hcollect']
  rfl

/-- A type with a property whose name is a keyword in Rust. -/
def episode : Descriptor :=
  ⟨{ name := ⟨["crate", "Episode"]⟩
     properties := [⟨"type", some "u8"⟩, ⟨"aired_on", some "u8"⟩]
     methods := ["setType"] }, []⟩

end LazyProxy.Config
