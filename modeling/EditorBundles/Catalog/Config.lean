import EditorBundles.FileSystem.Basic
import EditorBundles.Json.Decoder
import EditorBundles.Text.Utf8

/-!
# Configurations

A configuration says where bundles and themes are kept: those that came with the editor below one path,
and those that were installed or are the user's own, with the snapshot of the catalog, below another.
-/

namespace EditorBundles.Catalog
set_option autoImplicit false

/-- Where the catalog finds what it lists. `rebuild` starts without the snapshot, and `interval` is the
number of seconds between two snapshots. -/
structure Config where
  bundledDir : String := ""
  dataDir : String := ""
  rebuild : Bool := false
  interval : Nat := 5
  deriving DecidableEq, Repr, Inhabited

namespace Config

/-- The directory of the bundles that came with the editor. -/
def pristineBundles (c : Config) : String := Path.join c.bundledDir "Bundles"

/-- The directory of the themes that came with the editor. -/
def pristineThemes (c : Config) : String := Path.join c.bundledDir "Themes"

/-- The directory of the bundles that were installed. -/
def installedBundles (c : Config) : String := Path.join c.dataDir "InstalledBundles"

/-- The directory of the user's own bundles. -/
def ownBundles (c : Config) : String := Path.join c.dataDir "Bundles"

/-- The directory of the user's own themes. -/
def ownThemes (c : Config) : String := Path.join c.dataDir "Themes"

/-- The file of the snapshot. -/
def snapshotPath (c : Config) : String := Path.join c.dataDir "catalog.json"

/-- The configuration that keeps its data with that of the user's other programs: below the directory that
the environment names, if it names one from the root on, and else below the user's home. -/
def withDataHome (bundledDir home : String) (dataHome : Option String) : Config :=
  let base := (dataHome.filter Path.isAbsolute).getD (Path.join (Path.join home ".local") "share")
  { bundledDir, dataDir := Path.join base "bundlestore" }

/-- Reads a configuration. -/
def decoder : Json.Decoder Config :=
  Json.Decoder.record [
    Json.Decoder.field "app_path" Json.Decoder.string fun c bundledDir => { c with bundledDir },
    Json.Decoder.field "app_data_path" Json.Decoder.string fun c dataDir => { c with dataDir },
    Json.Decoder.optionalField "rebuild_db" Json.Decoder.bool fun c rebuild => { c with rebuild },
    Json.Decoder.optionalField "commit_interval_secs" (Json.Decoder.natural 0x10000000000000000) fun c interval =>
      { c with interval }] {}

end Config

/-- Why a configuration cannot be read. -/
inductive ConfigFault where
  | file (fault : FileFault)
  | json (fault : Json.Fault)
  deriving DecidableEq, Repr

/-- The configuration in a file. -/
def Config.load (fs : FileSystem) (path : String) : Except ConfigFault Config := do
  let octets ← (fs.read path).mapError ConfigFault.file
  match String.fromUTF8? octets with
  | none => throw (.file .invalidData)
  | some text => (decoder.run text).mapError ConfigFault.json

end EditorBundles.Catalog
