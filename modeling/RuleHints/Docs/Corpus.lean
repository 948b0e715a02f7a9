import RuleHints.FileTree
import RuleHints.Registry
import RuleHints.RuleName
import RuleHints.Table
import RuleHints.Text.Casing

/-!
# The corpus of help pages

A page has an address and a body; a page without a body only says where to look. Pages are found by
the name of a rule, first exactly, then by its lower case, where the latest name of that lower case
counts.

Pages come from the registry, one for each protocol, and from a tree of Markdown files. In a tree, a
page at the top replaces what was there. A page further down is put in only if there is no page of
its name with a body, once all pages at the top are in.
-/

namespace RuleHints

structure Page where
  url : Text
  body : Text := []
  deriving DecidableEq, Repr

/-- Pages by name, and the latest name of each lower case. -/
structure Corpus where
  pages : Table Page := []
  folded : Table Text := []
  deriving DecidableEq, Repr

namespace Corpus

def insert (corpus : Corpus) (name : Text) (page : Page) : Corpus where
  pages := corpus.pages.put name page
  folded := corpus.folded.put (Text.lower name) name

def lookup? (corpus : Corpus) (name : Text) : Option Page :=
  let name := ruleName name
  match corpus.pages.get? name with
  | some page => some page
  | none => (corpus.folded.get? (Text.lower name)).bind fun known => corpus.pages.get? known

def bodyAt? (corpus : Corpus) (url : Text) : Option Text :=
  (corpus.pages.find? fun entry => entry.2.url = url && !entry.2.body.isEmpty).map (·.2.body)

@[simp] theorem get?_pages_insert_self (corpus : Corpus) (name : Text) (page : Page) :
    (corpus.insert name page).pages.get? name = some page := Table.get?_put_self ..

theorem get?_pages_insert_of_ne {name other : Text} (h : other ≠ name) (corpus : Corpus)
    (page : Page) : (corpus.insert other page).pages.get? name = corpus.pages.get? name :=
  Table.get?_put_of_ne h ..

/-! ### Pages of protocols -/

/-- The protocols whose pages are in a section of their own. -/
def ruleSection : List Text :=
  ["file", "xfile", "tpl", "xtpl", "rawfile", "xrawfile", "redirect", "custom"]

def protocolUrl (base name : Text) : Text :=
  let folder : Text := if ruleSection.contains name then "rule/" else []
  base ++ folder ++ name ++ ".html"

def ofRegistry (registry : Registry) (base : Text) : Corpus :=
  registry.keywords.foldl (fun corpus name => corpus.insert name ⟨protocolUrl base name, []⟩) {}

/-! ### Pages of a tree -/

def pageName? (file : File) : Option Text :=
  if file.path.extension? = some "md" && file.path.stem != "README" then some file.path.stem
  else none

/-- The address of a page: its path with another extension below the base. -/
def pageUrl (base : Text) (path : Path) : Text :=
  let page := Path.toText (path.withExtension "html")
  base ++ page.map fun c => if c = '\\' then '/' else c

/-- Puts the pages at the top in, and gives those further down. A file that is not text ends it. -/
def mergeTop (base : Text) (corpus : Corpus) :
    List File → Corpus × Except Failure (List (Text × Page))
  | [] => (corpus, .ok [])
  | file :: rest =>
    match pageName? file with
    | none => mergeTop base corpus rest
    | some name =>
      match file.text? with
      | none => (corpus, .error .file)
      | some body =>
        let page : Page := ⟨pageUrl base file.path, body⟩
        if file.path.length ≤ 1 then mergeTop base (corpus.insert name page) rest
        else
          let (corpus, nested) := mergeTop base corpus rest
          (corpus, nested.map ((name, page) :: ·))

/-- Puts a page in unless its name has a page with a body. -/
def insertNested (corpus : Corpus) (entry : Text × Page) : Corpus :=
  match corpus.pages.get? entry.1 with
  | some page => if page.body.isEmpty then corpus.insert entry.1 entry.2 else corpus
  | none => corpus.insert entry.1 entry.2

/-- Puts the pages of a walk in. If it fails, the pages at the top before the failure stay. -/
def mergeFiles (corpus : Corpus) (base : Text) (files : List File) : Corpus × Except Failure Unit :=
  match mergeTop base corpus files with
  | (corpus, .ok nested) => (nested.foldl insertNested corpus, .ok ())
  | (corpus, .error failure) => (corpus, .error failure)

def merge (corpus : Corpus) (tree : FileTree) (directory base : Text) :
    Corpus × Except Failure Unit :=
  match tree.directory? directory with
  | some path => corpus.mergeFiles base (tree.below path)
  | none =>
    (corpus, .error (.configuration ("Documentation directory not found: " ++ directory)))

def ofTree (tree : FileTree) (directory base : Text) : Except Failure Corpus :=
  match merge {} tree directory base with
  | (corpus, .ok ()) => .ok corpus
  | (_, .error failure) => .error failure

end Corpus

end RuleHints
