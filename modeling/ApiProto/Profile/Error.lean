/-
  Errors of profiles, and the check of a package name.
-/
import ApiProto.Json.Fault
import ApiProto.Profile.Package

namespace ApiProto

/-- What is wrong with a profile or a profile file. -/
inductive ProfileError where
  | unsupportedMode (profile mode : String)
  | unknownTransform (profile member transform : String)
  | missingPackage (profile : String)
  | invalidPackage (profile package : String)
  | notFound (profile : String)
  | noProfiles
  deriving DecidableEq, Repr

namespace ProfileError

open Json (backquoted)

/-- The message of the error. -/
def message : ProfileError → String
  | .unsupportedMode profile mode =>
    "profile " ++ backquoted profile ++ " uses unsupported mode " ++ backquoted mode
  | .unknownTransform profile field transform =>
    "profile " ++ backquoted profile ++ " uses unknown transform " ++ backquoted transform
      ++ " for " ++ backquoted field
  | .missingPackage profile => "profile " ++ backquoted profile ++ " does not declare a package"
  | .invalidPackage profile package =>
    "profile " ++ backquoted profile ++ " declares invalid package " ++ backquoted package
  | .notFound profile => "profile " ++ backquoted profile ++ " not found"
  | .noProfiles => "profile file declares no profiles"

/-- How to mend the profile. -/
def help : ProfileError → Option String
  | .unsupportedMode .. => some "the only supported mode is `protobuf`"
  | .unknownTransform .. => some
      ("supported transforms: pascal-case, camel-case, snake-case, kebab-case, upper-case, "
        ++ "lower-case")
  | .missingPackage _ => some "set `options.package` or pass `--package`"
  | .invalidPackage .. =>
    some "a package is one or more identifiers separated by dots, e.g. `petstore.v1`"
  | .notFound _ | .noProfiles => none

end ProfileError

/-- Checks that a profile, reported under the given name, can be rendered: its package is there and
is a package name. -/
def Profile.check (name : String) (p : Profile) : Except ProfileError Unit :=
  if p.package = "" then .error (.missingPackage name)
  else if Package.isValid p.package then .ok ()
  else .error (.invalidPackage name p.package)

end ApiProto
