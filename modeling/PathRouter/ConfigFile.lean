import PathRouter.Config
import PathRouter.Yaml.Document

/-!
# Configuration files

A configuration is kept in a YAML file.  The data of such a file may contain itself, and is then read
down to some level.
-/

namespace PathRouter

/-- What reading a configuration file can fail with. -/
inductive ReadError where
  /-- There is no file. -/
  | noFile
  /-- The file holds no document. -/
  | document (fault : Yaml.Fault)
  /-- The document is no configuration. -/
  | config (error : ConfigError)
  deriving DecidableEq, Repr

namespace RouteTableConfig

/-- Reads a configuration from the bytes of a file, if there is one, down to a number of levels. -/
def readUnfolded (depth : Nat) (file? : Option (List UInt8)) :
    Except ReadError RouteTableConfig :=
  match file? with
  | none => .error .noFile
  | some bytes =>
    match Yaml.readUnfolded depth bytes with
    | .error fault => .error (.document fault)
    | .ok v =>
      match ofValue v with
      | .error e => .error (.config e)
      | .ok c => .ok c

/-- Reads a configuration from the bytes of a file, if there is one. -/
def read (file? : Option (List UInt8)) : Except ReadError RouteTableConfig :=
  readUnfolded Yaml.unfoldingDepth file?

end RouteTableConfig

end PathRouter
