import RuleHints.FileTree
import RuleHints.Plugin.Directory
import RuleHints.Settings.Basic

/-!
# Settings and plugins from files

The extension of a file says which language it is in. Settings in a file of another kind are
refused; plugins in a file of another kind are read as JSON.
-/

namespace RuleHints

namespace Language

def ofExtension? (extension : Option Text) : Option Language :=
  match extension with
  | none => none
  | some e =>
    if e = "yaml" || e = "yml" then some .yaml else if e = "json" then some .json else none

end Language

namespace Settings

def loadFileAs (language : Language) (tree : FileTree) (path : Text) : Except Failure Settings := do
  load language (← tree.read path)

def loadFile (tree : FileTree) (path : Text) : Except Failure Settings :=
  match Language.ofExtension? (Path.ofText path).extension? with
  | some language => loadFileAs language tree path
  | none => .error (.configuration ("Unsupported configuration file: " ++ path))

end Settings

namespace Plugin.Directory

def load (language : Language) (content : Text) : Except Failure Directory :=
  language.load read content

def loadFile (tree : FileTree) (path : Text) : Except Failure Directory := do
  let content ← tree.read path
  load ((Language.ofExtension? (Path.ofText path).extension?).getD .json) content

end Plugin.Directory

end RuleHints
