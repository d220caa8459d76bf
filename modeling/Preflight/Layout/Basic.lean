/-!
Layouts: the declarative description of the files a project is expected to have.
-/

namespace Preflight

/-- One expected path, read from the project root. Every entry has to exist; two marks put its file
under the import and line-count checks as well. -/
structure Entry where
  path : String
  scanImports : Bool
  countLines : Bool
  deriving DecidableEq, Repr

namespace Entry

def structural (path : String) : Entry := ⟨path, false, false⟩

/-- An entry whose imports are scanned and whose lines are counted. -/
def source (path : String) : Entry := ⟨path, true, true⟩

end Entry

/-- A layout: the manifest of the project, the dependencies the manifest must name, the beginnings
that exempt an import target from being relative, and the expected paths. -/
structure Layout where
  manifest : String
  requiredDependencies : List String
  exemptPrefixes : List String
  entries : List Entry
  deriving DecidableEq, Repr

namespace Layout

def paths (layout : Layout) : List String :=
  layout.entries.map (·.path)

def importSources (layout : Layout) : List String :=
  (layout.entries.filter (·.scanImports)).map (·.path)

def countedSources (layout : Layout) : List String :=
  (layout.entries.filter (·.countLines)).map (·.path)

/-- The beginnings of import targets that are exempt unless a layout says otherwise. -/
def defaultExemptPrefixes : List String := ["package:", "dart:", "flutter"]

/-- The layout of a Flutter application with clean architecture and a `home` feature. -/
def flutter : Layout where
  manifest := "pubspec.yaml"
  requiredDependencies := ["flutter_bloc", "get_it", "go_router", "equatable", "dartz"]
  exemptPrefixes := defaultExemptPrefixes
  entries :=
    [.structural "pubspec.yaml",
      .source "lib/main.dart",
      .source "lib/core/constants/app_constants.dart",
      .source "lib/core/theme/app_theme.dart",
      .source "lib/core/utils/error_handler.dart",
      .source "lib/core/widgets/common_widgets.dart",
      .source "lib/core/di/dependency_injection.dart",
      .source "lib/features/home/domain/entities/home_entity.dart",
      .source "lib/features/home/domain/repositories/home_repository.dart",
      .source "lib/features/home/domain/usecases/get_home_message.dart",
      .source "lib/features/home/data/models/home_model.dart",
      .source "lib/features/home/data/repositories/home_repository_impl.dart",
      .source "lib/features/home/presentation/bloc/home_bloc.dart",
      .source "lib/features/home/presentation/pages/home_page.dart",
      .source "lib/features/home/presentation/widgets/home_widget.dart",
      .structural "test/unit/home_bloc_test.dart",
      .structural "lib/l10n/app_zh.arb",
      .structural "lib/l10n/app_en.arb",
      .structural "README.md"]

end Layout

end Preflight
