import Phrasebook.Catalog.Directory
import Phrasebook.Resolver

/-!
Shared resolvers. There is one resolver for a bundle and the directory its catalogs lie in, however the
directory is spelled; it is made as its first asker asked for it.
-/

namespace Phrasebook

structure SharedResolver where
  directory : Catalog.Directory
  resolver : Resolver

abbrev ResolverKey := String × List String

abbrev Registry := OrderedMap ResolverKey SharedResolver

namespace Registry

def keyOf (tree : FileTree) (bundle directory : String) : Except FileFault ResolverKey :=
  (tree.resolve (Path.ofString directory)).map fun place => (bundle, place)

def get (registry : Registry) (key : ResolverKey) (directory : String)
    (defaultLocale : Option String) : SharedResolver :=
  match OrderedMap.get? registry key with
  | some shared => shared
  | none =>
    { directory := { path := Path.ofString directory }
      resolver := Resolver.new key.1 defaultLocale }

def run {α : Type} (registry : Registry) (tree : FileTree) (bundle directory : String)
    (defaultLocale : Option String) (step : Source → Resolver → Step α) : Registry × Report α :=
  match keyOf tree bundle directory with
  | .error fault => (registry, .ofFiles (.error fault))
  | .ok key =>
    let shared := registry.get key directory defaultLocale
    let done := step (shared.directory.source tree) shared.resolver
    (registry.insert key { shared with resolver := done.state }, done.report)

def enter (registry : Registry) (tree : FileTree) (bundle directory : String)
    (defaultLocale : Option String) : Registry × Report Unit :=
  registry.run tree bundle directory defaultLocale fun _ r => ⟨r, [], pure ()⟩

def resolve (registry : Registry) (tree : FileTree) (bundle directory : String)
    (locale : Option String) : Registry × Report Catalog :=
  registry.run tree bundle directory none fun source r => r.resolve source locale

def getString (registry : Registry) (tree : FileTree) (bundle directory : String)
    (locale : Option String) (key : String) : Registry × Report String :=
  registry.run tree bundle directory none fun source r => r.getString source locale key

end Registry

end Phrasebook
