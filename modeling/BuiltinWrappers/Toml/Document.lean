import BuiltinWrappers.Toml.Statement

/-!
# Documents

A document is read statement by statement into a draft.  Every assignment goes
into the table of the header above it, and a key or table given twice spoils the
whole document.
-/

namespace BuiltinWrappers.Toml

structure OpenDocument where
  entries : Draft.Entries := []
  current : List String := []

namespace OpenDocument

def edit (document : OpenDocument) (path : List String)
    (change : Origin → Draft.Entries → Option Draft.Entries) : Option Draft.Entries :=
  Draft.change false change path .defined document.entries

def apply (document : OpenDocument) : Statement → Option OpenDocument
  | .table name => do
      let entries ← document.edit name.path (Draft.defineTable name.key)
      return ⟨entries, name.path ++ [name.key]⟩
  | .arrayTable name => do
      let entries ← document.edit name.path (Draft.appendTable name.key)
      return ⟨entries, name.path ++ [name.key]⟩
  | .assignment key value => do
      let entries ← document.edit document.current (Draft.assign key.path key.key value)
      return { document with entries }

end OpenDocument

def documentOf? (statements : List Statement) : Option Table :=
  (statements.foldlM OpenDocument.apply {}).map fun document =>
    Draft.closeEntries document.entries

def dropByteOrderMark : List Char → List Char
  | '\ufeff' :: text => text
  | text => text

def document? (text : List Char) : Option Table :=
  statements? (dropByteOrderMark text) >>= documentOf?

end BuiltinWrappers.Toml
