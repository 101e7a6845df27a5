import Publishing.Path
import Publishing.Variation
import Publishing.Policy
import Publishing.Language
import Publishing.ContentType
import Publishing.Json.Numeral
import Publishing.Json.Quoted
import Publishing.Json.Value
import Publishing.Access.Realm
import Publishing.Resolve.Typed
import Publishing.Serial.Access
import Publishing.Target
import Publishing.Toml.Document
import Publishing.Settings.Toml
import Publishing.Proofs.RenderContext
import Publishing.Proofs.Access.Walk
import Publishing.Proofs.Access.RecycleBin
import Publishing.Proofs.Resolve.Miss
import Publishing.Proofs.Language
import Publishing.Proofs.Resolve.LanguageFallback
import Publishing.Proofs.Resolve.Decisive
import Publishing.Proofs.Resolve.NearestAncestor
import Publishing.Proofs.Resolve.Visibility
import Publishing.Proofs.Access.Monotone
import Publishing.Proofs.Resolve.Levels
import Publishing.Proofs.Culture
import Publishing.Proofs.Resolve.SideBySide
import Publishing.Proofs.Resolve.CultureFree
import Publishing.Proofs.Recased
import Publishing.Proofs.Resolve.Recased
import Publishing.Proofs.Access.NestedStarts
import Publishing.Proofs.Resolve.Conversion
import Publishing.Proofs.Access.Check
import Publishing.Proofs.Access.Inheritance
import Publishing.Proofs.Access.TopmostStarts
import Publishing.Proofs.Resolve.LanguageWalk
import Publishing.Proofs.Json.Numeral
import Publishing.Proofs.Json.Quoted
import Publishing.Proofs.Json.Token
import Publishing.Proofs.Json.Written
import Publishing.Proofs.Json.Value
import Publishing.Proofs.Serial.Lawful
import Publishing.Proofs.Serial.Content
import Publishing.Proofs.Serial.Access
import Publishing.Proofs.Serial.Lossless
import Publishing.Proofs.Access.Alike
import Publishing.Proofs.Path.Reading
import Publishing.Proofs.Growth
import Publishing.Proofs.Path.Search
import Publishing.Proofs.Path.Building
import Publishing.Proofs.Resolve.UndefinedName
import Publishing.Proofs.Access.BinPermissions
import Publishing.Proofs.Resolve.Steps
import Publishing.Proofs.ContentType
import Publishing.Proofs.Access.StoredPaths
import Publishing.Proofs.Resolve.Retrace
