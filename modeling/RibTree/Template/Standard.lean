import RibTree.Template.Basic

/-!
# Standard templates

The templates for Swift sources that are used where a project brings none of its own. Here `@`
stands for the product mark and `&` for the child mark; the builders carry the anchor line above
which child builders are declared.
-/

namespace RibTree.Standard

set_option autoImplicit false

/-- A template from its short form. -/
def expand (short : String) : String :=
  String.ofList (short.toList.flatMap fun c =>
    if c = '@' then productMark else if c = '&' then childMark else [c])

/-- A source file: the modules that it uses, and after a blank line what it declares. -/
def file (modules : List String) (declarations : String) : String :=
  String.join (modules.map fun name => "import " ++ name ++ "\n") ++ "\n" ++
    expand declarations

/-- The builder of a component with a view. -/
def viewBuilder : String := file ["RIBs"] "protocol @Dependency: Dependency \x7b
\x7d

final class @Component: Component<@Dependency> \x7b
\x7d

// MARK: - Builder

protocol @Buildable: Buildable \x7b
    func build(withListener listener: @Listener) -> @Routing
\x7d

final class @Builder: Builder<@Dependency>, @Buildable \x7b

    override init(dependency: @Dependency) \x7b
        super.init(dependency: dependency)
    \x7d

    func build(withListener listener: @Listener) -> @Routing \x7b
        let component = @Component(dependency: dependency)
        let viewController = @ViewController()
        let interactor = @Interactor(presenter: viewController)
        interactor.listener = listener
        // ribgen:child-builders
        return @Router(interactor: interactor, viewController: viewController)
    \x7d
\x7d
"

def viewInteractor : String := file ["RIBs", "RxSwift"] "protocol @Routing: ViewableRouting \x7b
\x7d

protocol @Presentable: Presentable \x7b
    var listener: @PresentableListener? \x7b get set \x7d
\x7d

protocol @Listener: AnyObject \x7b
\x7d

final class @Interactor: PresentableInteractor<@Presentable>, @Interactable, @PresentableListener \x7b

    weak var router: @Routing?
    weak var listener: @Listener?

    override init(presenter: @Presentable) \x7b
        super.init(presenter: presenter)
        presenter.listener = self
    \x7d

    override func didBecomeActive() \x7b
        super.didBecomeActive()
    \x7d

    override func willResignActive() \x7b
        super.willResignActive()
    \x7d
\x7d
"

def viewRouter : String := file ["RIBs"] "protocol @Interactable: Interactable \x7b
    var router: @Routing? \x7b get set \x7d
    var listener: @Listener? \x7b get set \x7d
\x7d

protocol @ViewControllable: ViewControllable \x7b
\x7d

final class @Router: ViewableRouter<@Interactable, @ViewControllable>, @Routing \x7b

    override init(interactor: @Interactable, viewController: @ViewControllable) \x7b
        super.init(interactor: interactor, viewController: viewController)
        interactor.router = self
    \x7d
\x7d
"

def viewController : String := file ["RIBs", "RxSwift", "UIKit"] "protocol @PresentableListener: AnyObject \x7b
\x7d

final class @ViewController: UIViewController, @Presentable, @ViewControllable \x7b

    weak var listener: @PresentableListener?
\x7d
"

/-- The builder of a component without a view; it takes one from its parent. -/
def plainBuilder : String := file ["RIBs"] "protocol @Dependency: Dependency \x7b
    var @ViewController: @ViewControllable \x7b get \x7d
\x7d

final class @Component: Component<@Dependency> \x7b

    fileprivate var @ViewController: @ViewControllable \x7b
        return dependency.@ViewController
    \x7d
\x7d

// MARK: - Builder

protocol @Buildable: Buildable \x7b
    func build(withListener listener: @Listener) -> @Routing
\x7d

final class @Builder: Builder<@Dependency>, @Buildable \x7b

    override init(dependency: @Dependency) \x7b
        super.init(dependency: dependency)
    \x7d

    func build(withListener listener: @Listener) -> @Routing \x7b
        let component = @Component(dependency: dependency)
        let interactor = @Interactor()
        interactor.listener = listener
        // ribgen:child-builders
        return @Router(interactor: interactor, viewController: component.@ViewController)
    \x7d
\x7d
"

def plainInteractor : String := file ["RIBs", "RxSwift"] "protocol @Routing: Routing \x7b
    func cleanupViews()
\x7d

protocol @Listener: AnyObject \x7b
\x7d

final class @Interactor: Interactor, @Interactable \x7b

    weak var router: @Routing?
    weak var listener: @Listener?

    override init() \x7b\x7d

    override func didBecomeActive() \x7b
        super.didBecomeActive()
    \x7d

    override func willResignActive() \x7b
        super.willResignActive()
        router?.cleanupViews()
    \x7d
\x7d
"

def plainRouter : String := file ["RIBs"] "protocol @Interactable: Interactable \x7b
    var router: @Routing? \x7b get set \x7d
    var listener: @Listener? \x7b get set \x7d
\x7d

protocol @ViewControllable: ViewControllable \x7b
\x7d

final class @Router: Router<@Interactable>, @Routing \x7b

    init(interactor: @Interactable, viewController: @ViewControllable) \x7b
        self.viewController = viewController
        super.init(interactor: interactor)
        interactor.router = self
    \x7d

    func cleanupViews() \x7b
    \x7d

    // MARK: - Private

    private let viewController: @ViewControllable
\x7d
"

def extension : String := file ["RIBs"] "protocol @Dependency&: Dependency \x7b
\x7d

extension @Component: &Dependency \x7b
\x7d
"

/-- Every standard template with its key. -/
def templates : TemplateSet := ⟨[
  (.component .builder true "swift", viewBuilder),
  (.component .interactor true "swift", viewInteractor),
  (.component .router true "swift", viewRouter),
  (.component .viewController true "swift", viewController),
  (.component .builder false "swift", plainBuilder),
  (.component .interactor false "swift", plainInteractor),
  (.component .router false "swift", plainRouter),
  (.extension "swift", extension)]⟩

end RibTree.Standard
