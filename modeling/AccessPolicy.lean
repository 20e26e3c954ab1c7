import AccessPolicy.Main
import AccessPolicy.Predicate.Dialect
import AccessPolicy.Proofs.Dict
import AccessPolicy.Proofs.Predicate.Agreement
import AccessPolicy.Proofs.Predicate.Rendering
import AccessPolicy.Proofs.Answers
import AccessPolicy.Proofs.FieldAccess
import AccessPolicy.Proofs.Scoping
import AccessPolicy.Proofs.HiddenValues
import AccessPolicy.Proofs.MorePermissions
import AccessPolicy.Proofs.Json.Canonical
import AccessPolicy.Proofs.Json.Edit
import AccessPolicy.Proofs.Json.Equality
import AccessPolicy.Proofs.MalformedCondition
import AccessPolicy.Proofs.Template
import AccessPolicy.Proofs.WrittenCondition
import AccessPolicy.Proofs.DeadPermission
import AccessPolicy.Proofs.PushedSelection
import AccessPolicy.Proofs.Json.Yield
import AccessPolicy.Proofs.Json.Written
import AccessPolicy.Proofs.ReloadedPermission
import AccessPolicy.Proofs.SavedPrincipal
import AccessPolicy.Proofs.ActionGate
import AccessPolicy.Proofs.ReferencedData
import AccessPolicy.Proofs.LackedAttribute
import AccessPolicy.Proofs.CommandLine.Gate
import AccessPolicy.Proofs.IntegerComparison
import AccessPolicy.Proofs.Superuser
import AccessPolicy.Proofs.CommandLine.Listings
import AccessPolicy.Proofs.Json.Respelling
import AccessPolicy.Proofs.RespelledSnapshot
import AccessPolicy.Proofs.NestedBounds
import AccessPolicy.Proofs.TextSearch
import AccessPolicy.Proofs.ComparisonTable
import AccessPolicy.Proofs.PolicyShapes
import AccessPolicy.Proofs.Predicate.Sum
import AccessPolicy.Proofs.UserReference
import AccessPolicy.Proofs.Predicate.Distinct
import AccessPolicy.Proofs.TrailingText
import AccessPolicy.Proofs.WrittenAsRead
import AccessPolicy.Proofs.UnitedProjection
import AccessPolicy.Proofs.WriteCheck
import AccessPolicy.Proofs.ListedFields
import AccessPolicy.Proofs.ConditionSequence
import AccessPolicy.Proofs.RecordsFile
import AccessPolicy.Proofs.Predicate.FilterMeaning
import AccessPolicy.Proofs.Substitution
