import Attest.ModuleImage
import Attest.Files
import Attest.Toml.Decode

/-!
# Manifests

A manifest is a TOML document that names the blob's file, relative to its own directory, and gives
keys, seed and answer as hexadecimal text.
-/

namespace Attest

namespace ModuleImage

/-- The fields of a manifest, the hexadecimal ones not read yet. -/
structure Manifest where
  /-- The path of the blob. -/
  blob : String
  key : String
  seed : String
  inbound : String
  outbound : String
  answer : String
  functions : Functions

namespace Manifest

open Toml (Value Record)

/-- Reads the addresses of the client functions. -/
def readFunctions (v : Value) : Option Functions := do
  let default : Functions := {}
  let r ← Record.ofValue? v
  let files ← r.withDefault 0 "file_functions" (Value.asVector 4 Value.asUInt32) default.files
  let load ← r.withDefault 1 "load_function" Value.asUInt32 default.load
  let tick ← r.withDefault 2 "tick_function" Value.asUInt32 default.tick
  return { files, load, tick }

/-- Reads the fields of a manifest. -/
def ofEntries? (entries : Toml.Entries) : Option Manifest := do
  let r := Record.named entries
  let blob ← r.required 0 "blob" Value.asString
  let key ← r.required 1 "key" Value.asString
  let seed ← r.required 2 "seed" Value.asString
  let inbound ← r.required 3 "client_key_seed" Value.asString
  let outbound ← r.required 4 "server_key_seed" Value.asString
  let answer ← r.required 5 "client_key_seed_hash" Value.asString
  let functions ← r.withDefault 6 "init" readFunctions {}
  return { blob, key, seed, inbound, outbound, answer, functions }

/-- The manifest of a document. -/
def ofText (text : String) : Except Fault Manifest :=
  match (Toml.Document.read? text).bind ofEntries? with
  | some manifest => .ok manifest
  | none => .error (.image .document)

/-- The `n` bytes that a hexadecimal field spells. -/
def readBytes (n : Nat) (field text : String) : Except Fault (Vector UInt8 n) :=
  match Hex.decode text with
  | .error cause => .error (.image (.notHex field cause))
  | .ok b =>
    match b.toVector? n with
    | some value => .ok value
    | none => .error (.image (.fieldLength field n b.length))

/-- The path of the blob, for a manifest at `path`. -/
def blobPath (manifest : Manifest) (path : String) : String :=
  if Path.isAbsolute manifest.blob then manifest.blob
  else Path.join (Path.parent path) manifest.blob

/-- The module of a manifest and the blob it names. -/
def image (manifest : Manifest) (blob : Bytes) : Except Fault ModuleImage := do
  let seed ← readBytes 16 "seed" manifest.seed
  let inbound ← readBytes 16 "client_key_seed" manifest.inbound
  let outbound ← readBytes 16 "server_key_seed" manifest.outbound
  let answer ← readBytes 20 "client_key_seed_hash" manifest.answer
  let key ← readBytes 16 "key" manifest.key
  ofBlob blob key { seed, inbound, outbound, answer } manifest.functions

end Manifest

variable {m : Type → Type} [Monad m]

/-- Loads the module of the manifest at a path. -/
def load (files : Files m) (path : String) : ExceptT Fault m ModuleImage := do
  let manifest ← ExceptT.mk (pure (Manifest.ofText (← files.text path)))
  let blob ← files.bytes (manifest.blobPath path)
  ExceptT.mk (pure (manifest.image blob))

end ModuleImage

end Attest
