import EditorBundles.PropertyList.Files

/-!
# Tables of documents

Documents are known by their index in a table. Deleting one leaves a vacant document behind, whose
index is handed out again before the table grows.
-/

namespace EditorBundles.PropertyList
set_option autoImplicit false

/-- Documents by index, and the stack of vacant indices with its top first. -/
structure DocumentTable where
  documents : Array Document := #[]
  free : List Nat := []
  deriving DecidableEq, Repr, Inhabited

namespace DocumentTable

/-- The number of indices, vacant ones included. -/
def size (t : DocumentTable) : Nat := t.documents.size

/-- The number of documents. -/
def liveCount (t : DocumentTable) : Nat := t.documents.size - t.free.length

/-- The document at an index. -/
def get (t : DocumentTable) (index : Nat) : Document := t.documents[index]?.getD Document.vacant

/-- Is there a document at an index that is not vacant? -/
def isLive (t : DocumentTable) (index : Nat) : Bool := index < t.size && !(t.get index).isVacant

/-- Puts a document at an index. -/
def set (t : DocumentTable) (index : Nat) (d : Document) : DocumentTable :=
  { t with documents := t.documents.setIfInBounds index d }

/-- Putting a document at an index leaves the number of indices alone. -/
@[simp] theorem size_set (t : DocumentTable) (index : Nat) (d : Document) : (t.set index d).size = t.size := by
  simp [size, set]

/-- A document that was just put at an index is the one that is read there. -/
theorem get_set_self (t : DocumentTable) {index : Nat} (h : index < t.size) (d : Document) :
    (t.set index d).get index = d := by
  rw [size] at h
  simp [get, set, h]

/-- Putting a document at an index leaves the others alone. -/
theorem get_set_of_ne (t : DocumentTable) {index other : Nat} (h : other ≠ index) (d : Document) :
    (t.set index d).get other = t.get other := by
  simp [get, set, Array.getElem?_setIfInBounds_ne h.symm]

/-- Changes the document at an index. -/
def modify (t : DocumentTable) (index : Nat) (f : Document → Document) : DocumentTable :=
  t.set index (f (t.get index))

/-- Stores a document and gives its index. -/
def insert (t : DocumentTable) (d : Document) : DocumentTable × Nat :=
  match t.free with
  | index :: free => ({ t.set index d with free }, index)
  | [] => ({ t with documents := t.documents.push d }, t.documents.size)

/-- Stores a new document with a name and an identity, and with a file name if one is given. -/
def create (t : DocumentTable) (name uuid : String) (filename : Option String) : DocumentTable × Nat :=
  let d := Document.create name uuid
  t.insert { d with filename := filename.getD d.filename }

/-- Stores the document in a file. Nothing is stored if it cannot be read. -/
def load (t : DocumentTable) (fs : FileSystem) (path : String) : Except Fault (DocumentTable × Nat) :=
  (Document.load fs path).map t.insert

/-- Stores a copy that no file holds yet. -/
def copy (t : DocumentTable) (index : Nat) : DocumentTable × Nat := t.insert (t.get index).copy

/-- Deletes a document. -/
def delete (t : DocumentTable) (index : Nat) : DocumentTable :=
  { t.set index Document.vacant with free := index :: t.free }

/-- Deleting a document leaves the others alone. -/
theorem get_delete_of_ne (t : DocumentTable) {index other : Nat} (h : other ≠ index) :
    (t.delete index).get other = t.get other := get_set_of_ne t h Document.vacant

/-- No document is left where one was deleted. -/
theorem isLive_delete (t : DocumentTable) (index : Nat) : (t.delete index).isLive index = false := by
  by_cases h : index < t.size
  · have gone : (t.delete index).get index = Document.vacant := get_set_self t h Document.vacant
    simp [isLive, gone, Document.isVacant, Document.vacant]
  · have size : (t.delete index).size = t.size := size_set t index Document.vacant
    simp [isLive, size, h]

/-- Writes a document to its file in a directory. -/
def save (t : DocumentTable) (fs : FileSystem) (index : Nat) (dir : String) :
    DocumentTable × FileSystem × Except Fault String :=
  match (t.get index).save fs dir with
  | (fs, .error fault) => (t, fs, .error fault)
  | (fs, .ok (d, path)) => (t.set index d, fs, .ok path)

end DocumentTable

end EditorBundles.PropertyList
