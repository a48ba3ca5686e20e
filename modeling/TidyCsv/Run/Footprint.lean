import TidyCsv.Run.Session

/-!
# What a run may touch

The files that a run reads or writes are known from its arguments, so that nothing else has to be
looked at.
-/

namespace TidyCsv

namespace Session

/-- The intermediate files of a run and its file of rejected rows. -/
def derivedPaths (session : Session) (settings : Settings) (baseName : String) : List Path :=
  let directory := session.directory settings
  [rejectPath settings directory baseName,
    stagedPath directory baseName,
    Resolution.derivedPath directory baseName "_stdin.csv",
    Resolution.derivedPath directory baseName "_utf8.csv",
    Resolution.derivedPath directory baseName "_fixed.csv"]

/-- The paths that a run may touch. -/
def footprint (session : Session) (argument : String) (options : Options) (home : Path) :
    List Path :=
  let reference := InputReference.ofArgument argument
  let baseName := reference.baseName
  match options.settings home baseName with
  | .error _ => reference.path?.toList
  | .ok settings =>
    reference.path?.toList ++ settings.output.path?.toList
      ++ session.derivedPaths settings baseName

end Session

end TidyCsv
