import TemplateEngines.Engine.Session
import TemplateEngines.Main
import TemplateEngines.Substitution.Token
import TemplateEngines.Proofs.CommandLine.RoundTrip
import TemplateEngines.Proofs.CommonFragment
import TemplateEngines.Proofs.Engine.Blank
import TemplateEngines.Proofs.Engine.Interleaving
import TemplateEngines.Proofs.Engine.Traces
import TemplateEngines.Proofs.Handlebars.Base64
import TemplateEngines.Proofs.Handlebars.Checking
import TemplateEngines.Proofs.Handlebars.Strictness
import TemplateEngines.Proofs.Handlebars.Times
import TemplateEngines.Proofs.Program.Diagnostics
import TemplateEngines.Proofs.Substitution.Staging
import TemplateEngines.Proofs.Substitution.Invariant
import TemplateEngines.Proofs.Variables
import TemplateEngines.Proofs.Time.Local
import TemplateEngines.Proofs.Rendering.Parameters
import TemplateEngines.Proofs.Rendering.Listing
import TemplateEngines.Proofs.CommandLine.Reading
import TemplateEngines.Proofs.Handlebars.Verbatim
import TemplateEngines.Proofs.Rendering.Reporting
import TemplateEngines.Proofs.Rendering.TemplateFile
import TemplateEngines.Proofs.Program.Sources
import TemplateEngines.Proofs.Handlebars.Causes
import TemplateEngines.Proofs.Handlebars.TimeFormats
