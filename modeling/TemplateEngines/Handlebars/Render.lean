/-
Rendering compiled templates. Each element is rendered with a renderer for the templates inside it,
and `render` ties the knot as many levels deep as it is told. A fault is placed at the innermost
tag around it.
-/
import TemplateEngines.Handlebars.Helper

namespace TemplateEngines.Handlebars

/-! ## Parameters -/

namespace Param

mutual

/-- Evaluates a parameter. -/
def evaluate (scope : Scope) : Param → Render Argument
  | .name s => pure ⟨some s, .missing⟩
  | .path p => do
    let found ← Render.find scope p
    return ⟨some p.source, found⟩
  | .literal v => pure ⟨none, .literal v⟩
  | .unreadable _ => pure ⟨none, .missing⟩
  | .call head params options => do
    let arguments ← evaluateAll scope params
    let options ← evaluateOptions scope options
    let name := head.label?.getD ""
    match Helper.ofName? name with
    | some helper =>
      let v ← helper.value scope ⟨name, arguments, options⟩
      return ⟨none, .computed v⟩
    | none => Render.fail (.unknownHelper head.describe)

def evaluateAll (scope : Scope) : List Param → Render (List Argument)
  | [] => pure []
  | p :: rest => do
    let a ← evaluate scope p
    let more ← evaluateAll scope rest
    return a :: more

def evaluateOptions (scope : Scope) : List (String × Param) → Render (List (String × Argument))
  | [] => pure []
  | (key, p) :: rest => do
    let a ← evaluate scope p
    let more ← evaluateOptions scope rest
    return (key, a) :: more

end

/-- The name that the head of an expression stands for; a call is evaluated for it. -/
def headName (scope : Scope) (head : Param) : Render String :=
  match head with
  | .name s => pure s
  | .path p => pure p.source
  | .literal v => pure v.templateText
  | _ => do
    let a ← head.evaluate scope
    return a.found.value.templateText

end Param

namespace Expression

/-- The expression is a head alone. -/
def isBare (e : Expression) : Bool := e.params.isEmpty && e.options.isEmpty

/-- Evaluates the name and the parameters. -/
def invoke (e : Expression) (scope : Scope) : Render Invocation := do
  let name ← e.head.headName scope
  let arguments ← Param.evaluateAll scope e.params
  let options ← Param.evaluateOptions scope e.options
  return ⟨name, arguments, options⟩

end Expression

/-- How the log shows a call. -/
def Invocation.describe (call : Invocation) : String :=
  "Rendering helper: " ++ Text.quoted call.name ++ ", params: [" ++
    String.intercalate ", " (call.arguments.map (·.describe)) ++ "], hash: \x7b" ++
    String.intercalate ", "
      (call.options.map fun (key, a) => Text.quoted key ++ ": " ++ a.describe) ++ "\x7d"

/-! ## Elements -/

/-- Calls the helper that an expression names. -/
def renderHelper (render : Renderer) (scope : Scope) (e : Expression) (content : Content) :
    Render Unit := do
  let call ← e.invoke scope
  Render.emit ⟨.debug, .handlebarsRenderer, call.describe⟩
  match Helper.ofName? call.name with
  | none => Render.fail (.unknownHelper (Text.quoted call.name))
  | some helper =>
    match helper.answer? scope call with
    | some answer =>
      let v ← answer
      Render.write v.templateText
    | none => helper.renderBlock render scope content call

/-- Writes the value of a bare expression; a missing value is an error in strict mode. -/
def renderBare (render : Renderer) (scope : Scope) (e : Expression) : Render Unit := do
  let name ← e.head.headName scope
  if (Helper.ofName? name).isSome then renderHelper render scope e {}
  else
    Render.emit ⟨.debug, .handlebarsRenderer, "Rendering value: " ++ e.head.describe⟩
    let a ← e.head.evaluate scope
    if a.found.isMissing then
      if scope.strict then Render.fail (.missingValue a.source) else pure ()
    else Render.writeIndented scope a.found.value.templateText

/-- Runs a decorator. The only one is `inline`, which gives its content a name. -/
def runDecorator (scope : Scope) (e : Expression) (body : Option Template) : Render Unit := do
  let call ← e.invoke scope
  if call.name ≠ "inline" then Render.fail (.unknownDecorator e.head.describe)
  else
    match call.arguments with
    | [] => Render.fail .unnamedPartial
    | a :: _ =>
      match a.found.value, body with
      | .string name, some t => modify fun p => { p with partials := p.partials.insert name t }
      | .string _, none => Render.fail .partialContent
      | _, _ => Render.fail .partialName

/-- Runs the decorators of a template and nothing else. -/
def runDecorators (scope : Scope) : Template → Render Unit
  | [] => pure ()
  | (position, .decorator e body) :: rest => do
    Render.placed position (runDecorator scope e body)
    runDecorators scope rest
  | _ :: rest => runDecorators scope rest

/-- The name by which an included template includes the content of its inclusion. -/
def contentName : String := "@partial-block"

/-- The template that an inclusion names, else its own content. -/
def findPartial (scope : Scope) (partials : Dict Template) (name : String)
    (body : Option Template) : Option Template :=
  let named := if name = contentName then scope.contents[scope.contentDepth]?
    else partials.get? name
  named.or body

/-- An object with members put into it; another value counts as an empty object. -/
def mergeOptions (base : Json) (options : List (String × Argument)) : Json :=
  .object (Dict.overlay base.members (options.map fun (key, a) => (key, a.found.value)))

/-- The scope of an included template before its data are set: an argument found in the data takes
the place of all blocks. -/
def inclusionScope (scope : Scope) (call : Invocation) : Scope :=
  match (call.arguments.head?).bind (·.found.path?) with
  | some path => { scope with blocks := [{ path := path }] }
  | none => scope

/-- The scope of an included template with the options of the inclusion put into its current value,
which an argument that is not found in the data does not change. -/
def withOptions (scope : Scope) (call : Invocation) : Render Scope := do
  if call.options.isEmpty then return scope
  else
    let base ← Render.find scope ⟨"", []⟩
    let block := { scope.current with value := some (mergeOptions base.value call.options) }
    return { scope with blocks := [block] }

/-- Renders the template that an inclusion stands for, if there is one. The names that it introduces
are forgotten afterwards. -/
def renderPartial (render : Renderer) (scope : Scope) (call : Invocation) (body : Option Template)
    (indent : Option String) : Render Unit := do
  let before ← get
  match findPartial scope before.partials call.name body with
  | none => pure ()
  | some t =>
    let depth := if call.name = contentName then scope.contentDepth + 1 else scope.contentDepth - 1
    let inner ← withOptions (inclusionScope { scope with contentDepth := depth } call) call
    let contents := match body with
      | some content => content :: inner.contents
      | none => inner.contents
    render { inner with contents := contents, indent := indent } t
    modify fun p => { p with partials := before.partials }

/-- Includes a template. The names that the content of the inclusion introduces are known to the
template and after it. -/
def renderInclusion (render : Renderer) (scope : Scope) (e : Expression) (body : Option Template)
    (indent : Option String) : Render Unit := do
  let call ← e.invoke scope
  runDecorators scope (body.getD [])
  renderPartial render scope call body indent

/-- Renders an element, with a renderer for the templates inside it. -/
def renderElement (render : Renderer) (scope : Scope) : Element → Render Unit
  | .text s => Render.writeIndented scope s
  | .comment => pure ()
  | .value e => if e.isBare then renderBare render scope e else renderHelper render scope e {}
  | .block e body inverse => renderHelper render scope e ⟨some body, inverse, e.blockParams⟩
  | .decorator e body => runDecorator scope e body
  | .inclusion e body indent => renderInclusion render scope e body indent

/-- Renders the elements of a template one after the other. -/
def renderElements (render : Renderer) (scope : Scope) : Template → Render Unit
  | [] => pure ()
  | (position, element) :: rest => do
    Render.placed position (renderElement render scope element)
    renderElements render scope rest

/-- Renders a template in which templates are nested at most as deep as the first argument says. -/
def render : Nat → Renderer
  | 0 => fun _ _ => Render.fail .tooDeep
  | depth + 1 => renderElements (render depth)

/-! ## Templates -/

/-- How deep the templates of a source may be nested. Its blocks are nested no deeper than it is
long; the other levels are for templates that include themselves. One that does so without end uses
them up, where the program overflows its stack and gives no answer; it ends with `tooDeep` here. -/
def depthFor (source : String) : Nat := source.length + 65536

/-- Renders a template from the start. -/
def Template.run (t : Template) (depth : Nat) (scope : Scope) :
    Except PlacedFault Unit × Progress := StateT.run (ExceptT.run (render depth scope t)) {}

end TemplateEngines.Handlebars
