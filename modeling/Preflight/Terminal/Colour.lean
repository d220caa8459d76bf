/-!
Whether a report or a log is coloured and whether messages are styled, as the environment decides it
when the output is no terminal.

A report is coloured when that is forced. Otherwise it takes a wish to treat the output like a
terminal, no objection, and a sign that the terminal knows colours. Messages are styled only when
that is forced, and a log is coloured unless there is an objection.
-/

namespace Preflight.Terminal

/-- The value of a variable of the environment, if it is set. -/
abbrev Environment := String → Option String

/-- Whether the digits of a number, with or without a plus sign, are all zero. -/
def isZeroNumber (value : String) : Bool :=
  let digits :=
    match value.toList with
    | '+' :: rest => rest
    | rest => rest
  !digits.isEmpty && digits.all (· == '0')

/-- Whether the environment forces colour. A value that is no number counts as a yes. -/
def forcesColour (env : Environment) : Bool :=
  match env "FORCE_COLOR" with
  | some value => !(value == "false" || isZeroNumber value)
  | none =>
      match env "CLICOLOR_FORCE" with
      | some value => value != "0"
      | none => false

/-- Whether a variable is set to something other than `0`. -/
def isEnabled (env : Environment) (name : String) : Bool :=
  match env name with
  | some value => value != "0"
  | none => false

/-- Whether a variable is set to something that is not empty. -/
def isFilled (env : Environment) (name : String) : Bool :=
  match env name with
  | some value => value != ""
  | none => false

def hasValue (env : Environment) (name : String) (values : List String) : Bool :=
  match env name with
  | some value => values.contains value
  | none => false

/-- The variables by which services that build and test programs make themselves known: it is enough
that one is set. -/
def serviceVariables : List String :=
  ["CI_NAME", "GITHUB_ACTION", "GITLAB_CI", "NETLIFY", "TRAVIS", "CODEBUILD_SRC_DIR",
    "BUILDER_OUTPUT", "GITLAB_DEPLOYMENT", "NOW_GITHUB_DEPLOYMENT", "NOW_BUILDER",
    "BITBUCKET_DEPLOYMENT", "GERRIT_PROJECT", "SYSTEM_TEAMFOUNDATIONCOLLECTIONURI", "BITRISE_IO",
    "BUDDY_WORKSPACE_ID", "BUILDKITE", "CIRRUS_CI", "APPVEYOR", "CIRCLECI", "SEMAPHORE", "DRONE",
    "DSARI", "TDDIUM", "STRIDER", "TASKCLUSTER_ROOT_URL", "JENKINS_URL", "bamboo.buildKey",
    "GO_PIPELINE_NAME", "HUDSON_URL", "WERCKER", "MAGNUM", "NEVERCODE", "RENDER", "SAIL_CI",
    "SHIPPABLE"]

/-- How the path in `NODE` ends under the one service that sets no variable of its own. -/
def serviceNode : String := "//heroku/node/bin/node"

/-- Whether the program runs under a service that builds and tests programs. -/
def isUnderService (env : Environment) : Bool :=
  hasValue env "CI" ["true", "1", "woodpecker"]
    || serviceVariables.any (fun name => (env name).isSome)
    || (match env "NODE" with
      | some path => serviceNode.toList.isSuffixOf path.toList
      | none => false)

/-- Whether the environment says that the terminal, or the service that collects the output, knows
colours. -/
def knowsColour (env : Environment) : Bool :=
  (env "COLORTERM").isSome || (env "TERM").isSome
    || hasValue env "TERM_PROGRAM" ["iTerm.app", "Apple_Terminal"]
    || isEnabled env "CLICOLOR"
    || isUnderService env

def isColoured (env : Environment) : Bool :=
  forcesColour env
    || (!isEnabled env "NO_COLOR" && !hasValue env "TERM" ["dumb"]
      && isEnabled env "IGNORE_IS_TERMINAL" && knowsColour env)

/-- Whether messages about the command line are styled. An objection beats the force. -/
def isStyled (env : Environment) : Bool :=
  !isFilled env "NO_COLOR" && isFilled env "CLICOLOR_FORCE"

/-- Whether the lines of a log are coloured, wherever they go. -/
def isLogColoured (env : Environment) : Bool :=
  !isFilled env "NO_COLOR"

def colourVariables : List String :=
  ["FORCE_COLOR", "CLICOLOR_FORCE", "CLICOLOR", "NO_COLOR", "IGNORE_IS_TERMINAL", "TERM",
    "TERM_PROGRAM", "COLORTERM", "CI", "NODE"]
    ++ serviceVariables

end Preflight.Terminal
