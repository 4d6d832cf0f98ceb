import SchemaForms.Cache.Basic
import SchemaForms.Session.Editor

/-!
# Session/Registry — what a session files by path

The schema cache and the editor states, both under the written form of a path.  Whatever changes the
identity of a subtree drops what is filed about it from both.
-/

namespace SchemaForms

/-- Schemas and editor states by path. -/
structure Registry where
  cache : Cache
  editors : List (String × EditorState)

namespace Registry

/-- Nothing is filed. -/
def empty (policy : CachePolicy) : Registry := ⟨.empty policy, []⟩

/-- The state of the editor at a path. -/
def editor? (registry : Registry) (path : Path) : Option EditorState :=
  Table.get? registry.editors path.key

/-- Files the state of an editor. -/
def setEditor (registry : Registry) (path : Path) (state : EditorState) : Registry :=
  { registry with editors := Table.insert registry.editors path.key state }

/-- Drops the editors whose paths satisfy `doomed`. -/
def forgetEditors (registry : Registry) (doomed : Path → Bool) : Registry :=
  { registry with editors := Table.dropKeys registry.editors fun key => doomed (Path.parse key) }

/-- Drops schemas, loads and editors whose paths satisfy `doomed`. -/
def dropWhere (registry : Registry) (doomed : Path → Bool) : Registry :=
  { registry.forgetEditors doomed with cache := registry.cache.evictWhere doomed }

/-- Drops everything at or below a path. -/
def dropUnder (registry : Registry) (path : Path) : Registry :=
  registry.dropWhere fun p => Path.startsWith p path

theorem editor?_setEditor (registry : Registry) (path other : Path) (state : EditorState) :
    (registry.setEditor path state).editor? other
      = if path.key = other.key then some state else registry.editor? other :=
  Table.get?_insert _ _ _ _

theorem editor?_forgetEditors (registry : Registry) (doomed : Path → Bool) (path : Path) :
    (registry.forgetEditors doomed).editor? path
      = if doomed (Path.parse path.key) then none else registry.editor? path :=
  Table.get?_dropKeys registry.editors (fun key => doomed (Path.parse key)) path.key

theorem editor?_dropWhere (registry : Registry) (doomed : Path → Bool) (path : Path) :
    (registry.dropWhere doomed).editor? path
      = if doomed (Path.parse path.key) then none else registry.editor? path :=
  registry.editor?_forgetEditors doomed path

theorem peek?_dropWhere (registry : Registry) (doomed : Path → Bool) (path : Path) :
    (registry.dropWhere doomed).cache.peek? path
      = if doomed (Path.parse path.key) then none else registry.cache.peek? path :=
  Table.get?_dropKeys registry.cache.entries (fun key => doomed (Path.parse key)) path.key

end Registry

end SchemaForms
