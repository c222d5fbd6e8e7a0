import Zangpu.Security.Canonical

/-!
Request signing in the Python client.

Owns: the client's canonical path and query with its own error.

Does not own: the code they share with the server, and the signature.
-/

set_option autoImplicit false

namespace Zangpu.Sdk.Python

open Zangpu.Foundation
open Zangpu.Security.Canonical

structure ZangpuSigningError where
  message : String
  deriving DecidableEq, Repr

def canonicalizePath (rawPath : Text) : Except ZangpuSigningError (List Char) :=
  canonicalizePathWith ZangpuSigningError.mk rawPath

def canonicalizeQuery (rawQuery : Text) : Except ZangpuSigningError (List Char) :=
  canonicalizeQueryWith ZangpuSigningError.mk rawQuery

end Zangpu.Sdk.Python
